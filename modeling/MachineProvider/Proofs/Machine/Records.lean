import MachineProvider.Proofs.Machine.Conduct
import MachineProvider.Proofs.Machine.History

/-!
# The record of an instance

`Effect` says everything that an exchange of a run may do to what the run knows and to the stored
machine, and `Tracks` is what every such step preserves: a run knows versions that were stored, the
finalizer stays as long as the known version has it, and a new instance is either recorded or about
to be recorded by the run that created it.
-/

namespace MachineProvider.InfraMachine

open Procedure

variable {reaches : Prop} {«namespace» name : String}

/-- What an exchange does: the instance that it creates, the version that it stores, and what its run
knows afterwards. -/
inductive Effect (reaches : Prop) (P : Progress) (store : Store InfraMachine) :
    Option Instance → Option InfraMachine → Progress → Prop
  /-- Nothing is learned about the machine. -/
  | asked (found : List (String × String)) (gone : List String) :
    Effect reaches P store none none { P with found, gone }
  /-- The current version is read. -/
  | read {m : InfraMachine} (stored : store.current = some m) :
    Effect reaches P store none none (P.learn m)
  /-- An instance is created. -/
  | created (i : Instance) (may : P.MayCreate) :
    Effect reaches P store (some i) none { P with created := some i }
  /-- A write fails without effect. -/
  | rejected (refused : Bool) :
    Effect reaches P store none none { P with known := none, refused }
  /-- A version is written over the known one, which is the current one. -/
  | replaced {m o v : InfraMachine} {P' : Progress} (known : P.known = some m)
    (stored : store.current = some m) (prepared : P.Prepared reaches m o)
    (fresh : store.IsFresh v) (replaces : Replaces m o v)
    (after : P' = P.learn v ∨ ∃ refused, P' = { P with known := none, refused }) :
    Effect reaches P store none (some v) P'
  /-- A status is written over the known version, which is the current one. -/
  | noted {m o v : InfraMachine} (known : P.known = some m) (stored : store.current = some m)
    (settled : P.Settled) (fresh : store.IsFresh v) (replaces : ReplacesStatus m o v) :
    Effect reaches P store none (some v) P

/-- A write over the known version is carried out over that version. -/
theorem Stores.current {store : Store InfraMachine} {m o v : InfraMachine}
    {n nm : String} {replaces : InfraMachine → InfraMachine → InfraMachine → Prop}
    (h : Stores «namespace» name store n nm o v replaces) (lawful : store.Lawful)
    (member : m ∈ store.versions)
    (onto : o.metadata.resourceVersion = m.metadata.resourceVersion) :
    store.current = some m ∧ store.IsFresh v ∧ replaces m o v := by
  obtain ⟨-, -, accepted, fresh, replaces'⟩ := h
  have current := lawful.current_of_accepts member onto accepted
  exact ⟨current, fresh, replaces' m current⟩

theorem Effect.quiet {P P' : Progress} {store : Store InfraMachine} (h : P' = P) :
    Effect reaches P store none none P' := by
  rw [h]
  exact .asked P.found P.gone

/-- The services tell nothing about the machine but its new instance. -/
theorem effect_of_service {P : Progress} {store : Store InfraMachine} {q : Service.Question}
    {a : Service.Answer q} (may : P.May reaches «namespace» (.service q)) :
    Effect reaches P store (born (.service q) a) none (P.next (.service q) a) := by
  cases q with
  | call request =>
      cases request with
      | createInstance request =>
          rcases a with (cause | cause | (e | i))
          · exact .quiet rfl
          · exact .quiet rfl
          · exact .quiet rfl
          · exact .created i may
      | getInstance id =>
          rcases a with (cause | cause | (e | i))
          · exact .quiet rfl
          · exact .quiet rfl
          · dsimp only [Progress.next]
            split
            · exact .asked _ _
            · exact .quiet rfl
          · exact .asked _ _
      | deleteInstance id =>
          rcases a with (cause | cause | (e | ⟨⟩))
          · exact .quiet rfl
          · exact .quiet rfl
          · dsimp only [Progress.next]
            split
            · exact .asked _ _
            · exact .quiet rfl
          · exact .asked _ _
      | readSecret _ _ => exact .quiet rfl
      | startInstance id => exact .quiet rfl
      | deleteLoadBalancer id => exact .quiet rfl
  | connect credentials => exact .quiet rfl
  | publish event => exact .quiet rfl
  | now => exact .quiet rfl

/-- Everything that an exchange can do. -/
theorem effect_of_serves {P : Progress} {store : Store InfraMachine} {q : Controller.Question}
    {a : Controller.Answer q} {stored : Option InfraMachine} (lawful : store.Lawful)
    (member : ∀ m, P.known = some m → m ∈ store.versions)
    (may : P.May reaches «namespace» q) (served : Serves «namespace» name store q a stored) :
    Effect reaches P store (born q a) stored (P.next q a) := by
  cases q with
  | service question =>
      obtain rfl : stored = none := served
      exact effect_of_service may
  | startGuard timeout =>
      obtain rfl : stored = none := served
      exact .quiet rfl
  | forgetFailures key =>
      obtain rfl : stored = none := served
      exact .quiet rfl
  | fetch kind n nm =>
      cases kind with
      | infraMachine =>
          rcases a with (e | m)
          · obtain rfl : stored = none := served
            exact .quiet rfl
          · obtain ⟨-, -, current, rfl⟩ := served
            exact .read current
      | _ =>
          obtain rfl : stored = none := served
          exact .quiet rfl
  | replace kind n nm o =>
      cases kind with
      | infraMachine =>
          obtain ⟨-, m, known, -, prepared⟩ := may
          rcases a with (e | v)
          · cases stored with
            | none => exact .rejected _
            | some v =>
                obtain ⟨-, stores⟩ := served v rfl
                obtain ⟨current, fresh, replaces⟩ :=
                  stores.current lawful (member m known) prepared.version
                exact .replaced known current prepared fresh replaces (.inr ⟨_, rfl⟩)
          · obtain ⟨rfl, stores⟩ := served
            obtain ⟨current, fresh, replaces⟩ :=
              stores.current lawful (member m known) prepared.version
            exact .replaced known current prepared fresh replaces (.inl rfl)
      | _ => exact may.elim
  | replaceStatus kind n nm o =>
      cases kind with
      | infraMachine =>
          obtain ⟨-, settled, m, known, -, onto⟩ := may
          rcases a with (e | ⟨⟩)
          · cases stored with
            | none => exact .quiet rfl
            | some v =>
                obtain ⟨-, stores⟩ := served v rfl
                obtain ⟨current, fresh, replaces⟩ := stores.current lawful (member m known) onto
                exact .noted known current settled fresh replaces
          · obtain ⟨v, rfl, stores⟩ := served
            obtain ⟨current, fresh, replaces⟩ := stores.current lawful (member m known) onto
            exact .noted known current settled fresh replaces
      | _ => exact may.elim

section Absorb

variable {store : Store InfraMachine} {v : InfraMachine}

@[simp] theorem absorb_versions : (absorb store v).versions = v :: store.versions := by
  unfold absorb
  split <;> rfl

/-- What is stored after a write is what was written. -/
theorem eq_of_absorb_current {cur : InfraMachine} (h : (absorb store v).current = some cur) :
    cur = v := by
  unfold absorb at h
  split at h
  · cases h
  · exact (Option.some.inj h).symm

/-- A machine with a finalizer stays. -/
theorem absorb_current_of_finalizer (h : v.hasFinalizer finalizer = true) :
    (absorb store v).current = some v := by
  have kept : v.metadata.finalizerList.isEmpty = false := by
    cases hl : v.metadata.finalizerList with
    | nil => simp [Object.hasFinalizer, hl] at h
    | cons f fs => rfl
  simp [absorb, kept, Store.put]

theorem lawful_absorb (lawful : store.Lawful) (fresh : store.IsFresh v) :
    (absorb store v).Lawful := by
  unfold absorb
  split
  · exact (lawful.put fresh).remove
  · exact lawful.put fresh

end Absorb

/-- Writing the status changes nothing that matters. -/
theorem ReplacesStatus.edits {cur o v : InfraMachine} (h : ReplacesStatus cur o v) :
    Edits cur v where
  name := by rw [h.metadata]
  providerId := by rw [h.spec]
  finalizer := by
    intro present
    rw [Object.hasFinalizer, h.metadata]
    exact present

/-- The finalizers are stored as they were sent. -/
theorem Replaces.hasFinalizer {cur o v : InfraMachine} (h : Replaces cur o v)
    (present : o.hasFinalizer finalizer = true) : v.hasFinalizer finalizer = true := by
  rw [Object.hasFinalizer, h.metadata]
  exact present

/-- What every step preserves. The instances were created so far, and `awaiting` says whether the run
that created one has stored nothing since. -/
structure Tracks (name : String) (P : Progress) (instances : List Instance) (awaiting : Bool)
    (store : Store InfraMachine) : Prop where
  lawful : store.Lawful
  named : ∀ v ∈ store.versions, v.metadata.name = some name
  known : ∀ m, P.known = some m → m ∈ store.versions
  finalized : ∀ m, P.known = some m → m.hasFinalizer finalizer = true →
    ∃ cur, store.current = some cur ∧ cur.hasFinalizer finalizer = true
  agrees : P.created = none → ∀ m cur, P.known = some m → store.current = some cur →
    cur.spec.providerId = m.spec.providerId
  recorded : P.recorded = true → ∀ cur, store.current = some cur →
    cur.spec.providerId.isSome = true
  single : instances.length ≤ 1
  own : ∀ i, P.created = some i → i ∈ instances
  held : ∀ i ∈ instances, ∀ v, store.versions.head? = some v →
    v.spec.providerId = some (ProviderId.ofInstance i.id) ∨
      awaiting = true ∧ P.created = some i ∧ P.recorded = false ∧ v.spec.providerId = none

namespace Tracks

variable {P : Progress} {instances : List Instance} {awaiting : Bool}
  {store : Store InfraMachine}

/-- Only one instance was created. -/
theorem eq_of_mem (h : Tracks name P instances awaiting store) {i j : Instance}
    (hi : i ∈ instances) (hj : j ∈ instances) : i = j := by
  have single := h.single
  rcases instances with - | ⟨k, - | ⟨l, rest⟩⟩
  · cases hi
  · rw [List.mem_singleton.mp hi, List.mem_singleton.mp hj]
  · simp only [List.length_cons] at single
    omega

/-- When the instance is recorded, nothing is awaited. -/
theorem of_settled (h : Tracks name P instances awaiting store) (settled : P.Settled)
    (awaiting' : Bool) : Tracks name P instances awaiting' store :=
  { h with
    held := by
      intro i hi v hv
      rcases h.held i hi v hv with stamped | ⟨-, born, unrecorded, -⟩
      · exact .inl stamped
      · have recorded := settled (by rw [born]; rfl)
        rw [unrecorded] at recorded
        cases recorded }

/-- Between two runs nothing is known. -/
theorem reset (h : Tracks name P instances awaiting store) (settled : P.Settled) :
    Tracks name {} instances false store where
  lawful := h.lawful
  named := h.named
  known := fun _ hm => absurd hm (Option.some_ne_none _).symm
  finalized := fun _ hm => absurd hm (Option.some_ne_none _).symm
  agrees := fun _ _ _ hm => absurd hm (Option.some_ne_none _).symm
  recorded := fun hr => absurd hr Bool.false_ne_true
  single := h.single
  own := fun _ hi => absurd hi (Option.some_ne_none _).symm
  held := by
    intro i hi v hv
    rcases (h.of_settled settled false).held i hi v hv with stamped | ⟨awaited, -⟩
    · exact .inl stamped
    · cases awaited

/-- Another version with the same provider ID and the finalizer changes nothing for the run. -/
theorem edited (h : Tracks name P instances awaiting store) {cur v : InfraMachine}
    (stored : store.current = some cur) (edits : Edits cur v) (fresh : store.IsFresh v) :
    Tracks name P instances awaiting (absorb store v) where
  lawful := lawful_absorb h.lawful fresh
  named := by
    intro w hw
    rw [absorb_versions] at hw
    rcases List.mem_cons.mp hw with rfl | hw
    · rw [edits.name, h.named cur (h.lawful.mem_of_current stored)]
    · exact h.named w hw
  known := by
    intro m hm
    rw [absorb_versions]
    exact List.mem_cons_of_mem _ (h.known m hm)
  finalized := by
    intro m hm hf
    obtain ⟨cur', hcur', present⟩ := h.finalized m hm hf
    obtain rfl : cur = cur' := Option.some.inj (stored.symm.trans hcur')
    have present' := edits.finalizer present
    exact ⟨v, absorb_current_of_finalizer present', present'⟩
  agrees := by
    intro unborn m cur' hm hcur'
    rw [eq_of_absorb_current hcur', edits.providerId]
    exact h.agrees unborn m cur hm stored
  recorded := by
    intro recorded cur' hcur'
    rw [eq_of_absorb_current hcur', edits.providerId]
    exact h.recorded recorded cur stored
  single := h.single
  own := h.own
  held := by
    intro i hi w hw
    rw [absorb_versions] at hw
    obtain rfl : v = w := Option.some.inj hw
    rw [edits.providerId]
    exact h.held i hi cur (h.lawful.current cur stored)

/-- A machine without finalizers may go away. -/
theorem removed (h : Tracks name P instances awaiting store) {cur : InfraMachine}
    (stored : store.current = some cur) (free : cur.metadata.finalizerList = []) :
    Tracks name P instances awaiting store.remove where
  lawful := h.lawful.remove
  named := h.named
  known := h.known
  finalized := by
    intro m hm hf
    obtain ⟨cur', hcur', present⟩ := h.finalized m hm hf
    obtain rfl : cur = cur' := Option.some.inj (stored.symm.trans hcur')
    simp [Object.hasFinalizer, free] at present
  agrees := fun _ _ _ _ hcur => absurd hcur (Option.some_ne_none _).symm
  recorded := fun _ _ hcur => absurd hcur (Option.some_ne_none _).symm
  single := h.single
  own := h.own
  held := h.held

/-- Reading the machine. -/
theorem read (h : Tracks name P instances awaiting store) {m : InfraMachine}
    (stored : store.current = some m) : Tracks name (P.learn m) instances awaiting store where
  lawful := h.lawful
  named := h.named
  known := by
    intro m' hm'
    obtain rfl : m = m' := Option.some.inj hm'
    exact h.lawful.mem_of_current stored
  finalized := by
    intro m' hm' present
    obtain rfl : m = m' := Option.some.inj hm'
    exact ⟨m, stored, present⟩
  agrees := by
    intro _ m' cur hm' hcur
    obtain rfl : m = m' := Option.some.inj hm'
    obtain rfl : m = cur := Option.some.inj (stored.symm.trans hcur)
    rfl
  recorded := by
    intro recorded cur hcur
    obtain rfl : m = cur := Option.some.inj (stored.symm.trans hcur)
    rcases Bool.or_eq_true_iff.mp recorded with before | named
    · exact h.recorded before m stored
    · exact named
  single := h.single
  own := h.own
  held := by
    intro i hi v hv
    obtain rfl : m = v := Option.some.inj ((h.lawful.current m stored).symm.trans hv)
    rcases h.held i hi m hv with stamped | ⟨awaited, born, unrecorded, unnamed⟩
    · exact .inl stamped
    · exact .inr ⟨awaited, born, by simp [Progress.learn, unrecorded, unnamed], unnamed⟩

/-- Creating an instance: there was none before. -/
theorem created (h : Tracks name P instances awaiting store) (i : Instance) (may : P.MayCreate) :
    Tracks name { P with created := some i } (i :: instances) true store := by
  obtain ⟨unborn, m, known, unnamed, present, -⟩ := may
  obtain ⟨cur, stored, -⟩ := h.finalized m known present
  have unstamped : cur.spec.providerId = none := by rw [h.agrees unborn m cur known stored, unnamed]
  have first : instances = [] := by
    cases hl : instances with
    | nil => rfl
    | cons j js =>
        rcases h.held j (by rw [hl]; exact List.mem_cons_self) cur (h.lawful.current cur stored)
          with stamped | ⟨-, born, -⟩
        · rw [unstamped] at stamped
          cases stamped
        · rw [unborn] at born
          cases born
  have unrecorded : P.recorded = false := by
    cases hr : P.recorded with
    | false => rfl
    | true =>
        have named := h.recorded hr cur stored
        rw [unstamped] at named
        cases named
  subst first
  exact
    { lawful := h.lawful
      named := h.named
      known := h.known
      finalized := h.finalized
      agrees := fun born => absurd born (Option.some_ne_none _)
      recorded := h.recorded
      single := Nat.le_refl 1
      own := by
        intro j hj
        obtain rfl : i = j := Option.some.inj hj
        exact List.mem_cons_self
      held := by
        intro j hj v hv
        obtain rfl := List.mem_singleton.mp hj
        obtain rfl : cur = v := Option.some.inj ((h.lawful.current cur stored).symm.trans hv)
        exact .inr ⟨rfl, rfl, unrecorded, unstamped⟩ }

/-- What is written over the current version records the instance. -/
theorem stamped (h : Tracks name P instances awaiting store) {m o : InfraMachine}
    (stored : store.current = some m) (prepared : P.Prepared reaches m o) {i : Instance}
    (hi : i ∈ instances) : o.spec.providerId = some (ProviderId.ofInstance i.id) := by
  rw [prepared.providerId]
  cases hc : P.created with
  | none =>
      rcases h.held i hi m (h.lawful.current m stored) with stamped | ⟨-, born, -⟩
      · simpa [Progress.providerIdAfter, hc] using stamped
      · rw [hc] at born
        cases born
  | some j =>
      rw [h.eq_of_mem hi (h.own j hc)]
      simp [Progress.providerIdAfter, hc]

/-- Writing over the current version. -/
theorem replaced (h : Tracks name P instances awaiting store) {m o v : InfraMachine}
    {P' : Progress} (stored : store.current = some m) (prepared : P.Prepared reaches m o)
    (fresh : store.IsFresh v) (replaces : Replaces m o v)
    (after : P' = P.learn v ∨ ∃ refused, P' = { P with known := none, refused }) :
    Tracks name P' instances false (absorb store v) := by
  have known : ∀ m', P'.known = some m' → m' = v := by
    intro m' hm'
    rcases after with rfl | ⟨refused, rfl⟩
    · exact (Option.some.inj hm').symm
    · exact absurd hm' (Option.some_ne_none _).symm
  have born : P'.created = P.created := by
    rcases after with rfl | ⟨refused, rfl⟩ <;> rfl
  have kept : P'.recorded = true → P.recorded = true ∨ v.spec.providerId.isSome = true := by
    intro recorded
    rcases after with rfl | ⟨refused, rfl⟩
    · exact Bool.or_eq_true_iff.mp recorded
    · exact .inl recorded
  exact
    { lawful := lawful_absorb h.lawful fresh
      named := by
        intro w hw
        rw [absorb_versions] at hw
        rcases List.mem_cons.mp hw with rfl | hw
        · rw [replaces.metadata, prepared.name]
          exact h.named m (h.lawful.mem_of_current stored)
        · exact h.named w hw
      known := by
        intro m' hm'
        rw [absorb_versions, known m' hm']
        exact List.mem_cons_self
      finalized := by
        intro m' hm' present
        obtain rfl := known m' hm'
        exact ⟨m', absorb_current_of_finalizer present, present⟩
      agrees := by
        intro _ m' cur hm' hcur
        rw [known m' hm', eq_of_absorb_current hcur]
      recorded := by
        intro recorded cur hcur
        rw [eq_of_absorb_current hcur]
        rcases kept recorded with before | named
        · have named := h.recorded before m stored
          rw [replaces.spec, prepared.providerId]
          unfold Progress.providerIdAfter
          split
          · exact named
          · rfl
        · exact named
      single := h.single
      own := by
        rw [born]
        exact h.own
      held := by
        intro i hi w hw
        left
        rw [absorb_versions] at hw
        obtain rfl : v = w := Option.some.inj hw
        rw [replaces.spec]
        exact h.stamped stored prepared hi }

/-- An exchange preserves everything. -/
theorem effect (h : Tracks name P instances awaiting store) {P' : Progress}
    {new : Option Instance} {stored : Option InfraMachine}
    (effect : Effect reaches P store new stored P') :
    Tracks name P' (new.toList ++ instances) (stored.isNone && (new.isSome || awaiting))
      (absorbAny store stored) := by
  cases effect with
  | asked found gone => exact { h with }
  | read current => exact h.read current
  | created i may => exact h.created i may
  | rejected refused =>
      exact
        { h with
          known := fun _ hm => absurd hm (Option.some_ne_none _).symm
          finalized := fun _ hm => absurd hm (Option.some_ne_none _).symm
          agrees := fun _ _ _ hm => absurd hm (Option.some_ne_none _).symm }
  | replaced known current prepared fresh replaces after =>
      exact h.replaced current prepared fresh replaces after
  | noted known current settled fresh replaces =>
      exact (h.edited current replaces.edits fresh).of_settled settled false

end Tracks

/-- What is true at every moment of a history: the run in progress keeps to the rules. -/
structure Sound (reaches : Prop) («namespace» name : String) (past : List Occurrence)
    (s : Situation) : Prop where
  tracks : Tracks name (progress past) (created past) (awaitsRecord past) s.store
  follows : ∀ p, s.running = some p →
    p.Follows (Progress.discipline reaches «namespace») (fun _ P => P.Settled) (progress past)
  idle : s.running = none → (progress past).Settled

/-- What the API server gives back is the machine of the history. -/
theorem agrees_of_serves {P : Progress} {instances : List Instance} {awaiting : Bool}
    {store : Store InfraMachine} {q : Controller.Question} {a : Controller.Answer q}
    {stored : Option InfraMachine} (h : Tracks name P instances awaiting store)
    (served : Serves «namespace» name store q a stored) : Progress.Agrees q a := by
  unfold Progress.Agrees
  split
  · obtain ⟨-, rfl, current, -⟩ := served
    exact h.named _ (h.lawful.mem_of_current current)
  · obtain ⟨-, -, -, ⟨cur, current, -⟩, -, replaces⟩ := served
    have replaced := replaces cur current
    exact ⟨by rw [replaced.metadata], by rw [replaced.spec]⟩
  · trivial

/-- Every history is sound when the writes of new provider IDs succeed. -/
theorem History.sound {past : List Occurrence} {s : Situation}
    (h : History «namespace» name past s) (lands : RecordsLand past)
    (resolves : reaches → CleanupsResolve past) : Sound reaches «namespace» name past s := by
  induction h with
  | start named versioned =>
      exact
        { tracks :=
            { lawful := .ofVersion versioned
              named := by
                intro v hv
                rw [List.mem_singleton.mp hv]
                exact named
              known := fun _ hm => absurd hm (Option.some_ne_none _).symm
              finalized := fun _ hm => absurd hm (Option.some_ne_none _).symm
              agrees := fun _ _ _ hm => absurd hm (Option.some_ne_none _).symm
              recorded := fun hr => absurd hr Bool.false_ne_true
              single := Nat.zero_le 1
              own := fun _ hi => absurd hi (Option.some_ne_none _).symm
              held := fun _ hi => absurd hi List.not_mem_nil }
          follows := fun _ hp => absurd hp (Option.some_ne_none _).symm
          idle := fun _ => .of_unborn rfl }
  | began config gzip before ih =>
      have sound := ih lands resolves
      exact
        { tracks := sound.tracks.reset (sound.idle rfl)
          follows := by
            intro p hp
            obtain rfl := Option.some.inj hp
            exact run_follows «namespace» name config gzip
          idle := fun _ => .of_unborn rfl }
  | exchanged before stored served ih =>
      have sound := ih lands.2 fun opened => (resolves opened).2
      obtain ⟨may, rest⟩ := sound.follows _ rfl
      have effect := effect_of_serves sound.tracks.lawful sound.tracks.known may served
      refine ⟨?_, ?_, ?_⟩
      · rw [progress_exchanged, created_exchanged, awaitsRecord_exchanged]
        exact sound.tracks.effect effect
      · intro p hp
        obtain rfl := Option.some.inj hp
        rw [progress_exchanged]
        exact rest _ ⟨lands.1, agrees_of_serves sound.tracks served, fun opened => (resolves opened).1⟩
      · intro idle
        exact absurd idle (Option.some_ne_none _)
  | ended before ih =>
      have sound := ih lands resolves
      have settled := sound.follows _ rfl
      exact
        { tracks := sound.tracks.reset settled
          follows := fun _ hp => absurd hp (Option.some_ne_none _).symm
          idle := fun _ => .of_unborn rfl }
  | edited before stored edits fresh ih =>
      have sound := ih lands resolves
      exact
        { tracks := sound.tracks.edited stored edits fresh
          follows := sound.follows
          idle := sound.idle }
  | removed before stored free ih =>
      have sound := ih lands resolves
      exact
        { tracks := sound.tracks.removed stored free
          follows := sound.follows
          idle := sound.idle }

end MachineProvider.InfraMachine
