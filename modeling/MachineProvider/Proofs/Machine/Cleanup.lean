import MachineProvider.Proofs.Machine.SingleInstance
import MachineProvider.Proofs.ProviderId

/-!
# No instance is left behind

When the cleanups find their way to the cloud, the finalizer of the controller goes from a machine
only after its instance is gone. The dangerous order, a deletion request between the creation of an
instance and the record of it, is covered by the finalizer: it was there before the instance, and a
run for the deleted machine reads the provider ID first.
-/

namespace MachineProvider.InfraMachine

variable {«namespace» name : String}

/-- An answer that creates no instance adds none. -/
theorem Hosts.subset {before after : List String} {q : Controller.Question}
    {a : Controller.Answer q} (h : Hosts before after q a) (unborn : born q a = none) :
    after ⊆ before := by
  unfold Hosts at h
  split at h
  · cases unborn
  · exact h.2
  · exact h.2
  · exact h.2
  · exact h.2
  · exact h

/-- An answer that creates an instance adds that one. -/
theorem Hosts.subset_cons {before after : List String} {q : Controller.Question}
    {a : Controller.Answer q} {i : Instance} (h : Hosts before after q a)
    (new : born q a = some i) : i.id ≠ "" ∧ after ⊆ i.id :: before := by
  unfold born at new
  split at new
  · obtain rfl := Option.some.inj new
    exact h
  · cases new

/-- What a run knows about the cloud is true, and the finalizer guards every instance that exists. -/
structure Guards (P : Progress) (instances : List Instance) (store : Store InfraMachine)
    (existing : List String) : Prop where
  found : ∀ id other, (id, other) ∈ P.found → other = id
  gone : P.created = none → ∀ id ∈ P.gone, id ∉ existing
  named : ∀ i ∈ instances, i.id ≠ ""
  guarded : ∀ i ∈ instances, i.id ∈ existing →
    ∃ cur, store.current = some cur ∧ cur.hasFinalizer finalizer = true

namespace Guards

variable {P : Progress} {instances : List Instance} {store : Store InfraMachine}
  {existing : List String}

/-- What the cloud answers is found to be true. -/
theorem found_next (h : Guards P instances store existing) {after : List String}
    {q : Controller.Question} {a : Controller.Answer q} (hosts : Hosts existing after q a) :
    ∀ id other, (id, other) ∈ (P.next q a).found → other = id := by
  unfold Progress.next
  split
  · exact h.found
  · exact h.found
  · exact h.found
  · exact h.found
  · intro id other hm
    rcases List.mem_cons.mp hm with same | hm
    · obtain ⟨rfl, rfl⟩ := Prod.mk.inj same
      exact hosts.1
    · exact h.found id other hm
  · split <;> exact h.found
  · exact h.found
  · split <;> exact h.found
  · exact h.found

/-- What is noted as gone stays gone, as long as no instance is created. -/
theorem gone_next (h : Guards P instances store existing) {after : List String}
    {q : Controller.Question} {a : Controller.Answer q} (hosts : Hosts existing after q a) :
    (P.next q a).created = none → ∀ id ∈ (P.next q a).gone, id ∉ after := by
  cases new : born q a with
  | some i =>
      unfold born at new
      split at new
      · exact fun unborn => absurd unborn (Option.some_ne_none _)
      · cases new
  | none =>
      have subset : after ⊆ existing := hosts.subset new
      have kept : P.created = none → ∀ id ∈ P.gone, id ∉ after :=
        fun unborn id hid member => h.gone unborn id hid (subset member)
      have added : ∀ id, id ∉ after → P.created = none → ∀ id' ∈ id :: P.gone, id' ∉ after := by
        intro id absent unborn id' hid'
        rcases List.mem_cons.mp hid' with rfl | hid'
        · exact absent
        · exact kept unborn id' hid'
      unfold Progress.next
      split
      · exact kept
      · exact kept
      · exact kept
      · exact fun unborn => absurd unborn (Option.some_ne_none _)
      · exact kept
      · split
        next unknown => exact added _ (hosts.1 unknown)
        next => exact kept
      · exact added _ hosts.1
      · split
        next unknown => exact added _ (hosts.1 unknown)
        next => exact kept
      · exact kept

/-- A machine is let go only when its instance is gone. -/
theorem absent_of_mayRelease (h : Guards P instances store existing) {awaiting : Bool}
    (tracks : Tracks name P instances awaiting store) {m : InfraMachine}
    (stored : store.current = some m) (release : P.MayRelease True m) {i : Instance}
    (hi : i ∈ instances) : i.id ∉ existing := by
  have stamped : m.spec.providerId = some (ProviderId.ofInstance i.id) := by
    rcases tracks.held i hi m (tracks.lawful.current m stored) with stamped | ⟨-, born, -⟩
    · exact stamped
    · rw [release.unborn] at born
      cases born
  have parsed := ProviderId.parse?_ofInstance (h.named i hi)
  rcases release.gone trivial _ stamped i.id parsed with gone | ⟨other, gone, found⟩
  · exact h.gone release.unborn i.id gone
  · rw [← h.found i.id other found]
    exact h.gone release.unborn other gone

/-- An existing instance stays guarded by the finalizer. -/
theorem guarded_of_effect (h : Guards P instances store existing) {awaiting : Bool}
    (tracks : Tracks name P instances awaiting store) {after : List String} {P' : Progress}
    {new : Option Instance} {stored : Option InfraMachine}
    (effect : Effect True P store new stored P') (subset : new = none → after ⊆ existing)
    {i : Instance} (hi : i ∈ new.toList ++ instances) (exists' : i.id ∈ after) :
    ∃ cur, (absorbAny store stored).current = some cur ∧ cur.hasFinalizer finalizer = true := by
  cases effect with
  | asked found gone => exact h.guarded i hi (subset rfl exists')
  | read current => exact h.guarded i hi (subset rfl exists')
  | created j may =>
      obtain ⟨-, m, known, -, present, -⟩ := may
      exact tracks.finalized m known present
  | rejected refused => exact h.guarded i hi (subset rfl exists')
  | replaced known current prepared fresh replaces after' =>
      obtain ⟨cur, hcur, present⟩ := h.guarded i hi (subset rfl exists')
      rw [current] at hcur
      obtain rfl := Option.some.inj hcur
      rcases prepared.finalizer present with kept | release
      · have present' : Object.hasFinalizer _ finalizer = true := replaces.hasFinalizer kept
        exact ⟨_, absorb_current_of_finalizer present', present'⟩
      · exact absurd (subset rfl exists') (h.absent_of_mayRelease tracks current release hi)
  | noted known current settled fresh replaces =>
      obtain ⟨cur, hcur, present⟩ := h.guarded i hi (subset rfl exists')
      rw [current] at hcur
      obtain rfl := Option.some.inj hcur
      have present' := replaces.edits.finalizer present
      exact ⟨_, absorb_current_of_finalizer present', present'⟩

/-- An exchange keeps every existing instance guarded. -/
theorem effect (h : Guards P instances store existing) {awaiting : Bool}
    (tracks : Tracks name P instances awaiting store) {after : List String}
    {q : Controller.Question} {a : Controller.Answer q} {stored : Option InfraMachine}
    (effect : Effect True P store (born q a) stored (P.next q a))
    (hosts : Hosts existing after q a) :
    Guards (P.next q a) ((born q a).toList ++ instances) (absorbAny store stored) after where
  found := h.found_next hosts
  gone := h.gone_next hosts
  named := by
    intro i hi
    rcases List.mem_append.mp hi with new | old
    · exact (hosts.subset_cons (Option.mem_toList.mp new)).1
    · exact h.named i old
  guarded := by
    intro i hi exists'
    exact h.guarded_of_effect tracks effect hosts.subset hi exists'

/-- What other clients do keeps every existing instance guarded. -/
theorem edited (h : Guards P instances store existing) {cur v : InfraMachine}
    (stored : store.current = some cur) (edits : Edits cur v) {after : List String}
    (vanished : after ⊆ existing) : Guards P instances (absorb store v) after where
  found := h.found
  gone := fun unborn id hid member => h.gone unborn id hid (vanished member)
  named := h.named
  guarded := by
    intro i hi exists'
    obtain ⟨cur', hcur', present⟩ := h.guarded i hi (vanished exists')
    obtain rfl : cur = cur' := Option.some.inj (stored.symm.trans hcur')
    have present' := edits.finalizer present
    exact ⟨v, absorb_current_of_finalizer present', present'⟩

/-- Between two runs nothing is known. -/
theorem reset (h : Guards P instances store existing) {after : List String}
    (vanished : after ⊆ existing) : Guards {} instances store after where
  found := fun _ _ hm => absurd hm List.not_mem_nil
  gone := fun _ _ hm => absurd hm List.not_mem_nil
  named := h.named
  guarded := fun i hi exists' => h.guarded i hi (vanished exists')

end Guards

/-- Every history keeps every existing instance guarded when the cleanups find their way. -/
theorem History.guards {past : List Occurrence} {s : Situation} {existing : List String}
    (h : History «namespace» name past s) (lands : RecordsLand past)
    (resolves : CleanupsResolve past) (cloud : CloudHistory past existing) :
    Guards (progress past) (created past) s.store existing := by
  induction h generalizing existing with
  | start named versioned =>
      exact
        { found := fun _ _ hm => absurd hm List.not_mem_nil
          gone := fun _ _ hm => absurd hm List.not_mem_nil
          named := fun _ hi => absurd hi List.not_mem_nil
          guarded := fun _ hi => absurd hi List.not_mem_nil }
  | began config gzip before ih =>
      cases cloud with
      | began earlier vanished => exact (ih lands resolves earlier).reset vanished
  | exchanged before stored served ih =>
      cases cloud with
      | exchanged earlier hosts =>
          have sound : Sound True _ _ _ _ := before.sound lands.2 fun _ => resolves.2
          obtain ⟨may, -⟩ := sound.follows _ rfl
          have effect := effect_of_serves sound.tracks.lawful sound.tracks.known may served
          rw [progress_exchanged, created_exchanged]
          exact (ih lands.2 resolves.2 earlier).effect sound.tracks effect hosts
  | ended before ih =>
      cases cloud with
      | ended earlier vanished => exact (ih lands resolves earlier).reset vanished
  | edited before stored edits fresh ih =>
      cases cloud with
      | edited earlier vanished => exact (ih lands resolves earlier).edited stored edits vanished
  | removed before stored free ih =>
      cases cloud with
      | removed earlier vanished =>
          have guards := ih lands resolves earlier
          exact
            { found := guards.found
              gone := fun unborn id hid member => guards.gone unborn id hid (vanished member)
              named := guards.named
              guarded := by
                intro i hi exists'
                obtain ⟨cur, hcur, present⟩ := guards.guarded i hi (vanished exists')
                rw [stored] at hcur
                obtain rfl := Option.some.inj hcur
                simp [Object.hasFinalizer, free] at present }

/-- Once the finalizer is off a machine, or the machine is gone, none of the instances that were
created for it exists. -/
theorem no_instance_without_finalizer {past : List Occurrence} {s : Situation}
    {existing : List String} (h : History «namespace» name past s) (lands : RecordsLand past)
    (resolves : CleanupsResolve past) (cloud : CloudHistory past existing)
    (free : ∀ cur, s.store.current = some cur → cur.hasFinalizer finalizer = false) :
    ∀ i ∈ created past, i.id ∉ existing := by
  intro i hi exists'
  obtain ⟨cur, hcur, present⟩ := (h.guards lands resolves cloud).guarded i hi exists'
  rw [free cur hcur] at present
  cases present

/-- The recorded machine after a deletion request. -/
def sampleDeleted : InfraMachine :=
  { sampleRecorded with
    metadata := { sampleRecorded.metadata with
      deletionTimestamp := some default, resourceVersion := some "4" } }

/-- The deleted machine without its finalizer. -/
def sampleReleased : InfraMachine :=
  { sampleDeleted with
    metadata := { sampleDeleted.metadata with
      finalizers := some [], resourceVersion := some "5" } }

/-- The machine is deleted after its instance was recorded; the cleanup deletes the instance and lets
the machine go. -/
theorem sample_cleanup : ∃ past s, History "default" "gpu-0" past s ∧ RecordsLand past ∧
    CleanupsResolve past ∧ CloudHistory past [] ∧ s.store.current = none ∧
      sampleInstance ∈ created past := by
  obtain ⟨earlier, later, h0, lands, resolves, cloud, first, -, -⟩ := sample_history
  have deleted : Store.IsFresh
      (((Store.ofVersion sampleMachine).put sampleLabelled).put sampleRecorded) sampleDeleted :=
    .of_not_mem rfl (by decide)
  have current : (((Store.ofVersion sampleMachine).put sampleLabelled).put sampleRecorded).current =
      some sampleRecorded := rfl
  have edits : Edits sampleRecorded sampleDeleted := ⟨rfl, rfl, fun _ => rfl⟩
  have h1 := h0.edited current edits deleted
  have h2 := h1.began {} Gzip.encode
  have h3 := h2.exchanged (q := .fetch .infraMachine _ _) (a := .ok sampleDeleted)
    none ⟨rfl, rfl, rfl, rfl⟩
  have h4 := h3.exchanged (q := .fetch .machine _ _) (a := .ok sampleOwner) none rfl
  have h5 := h4.exchanged (q := .fetch .cluster _ _) (a := .ok sampleCluster) none rfl
  have h6 := h5.exchanged (q := .fetch .infraCluster _ _) (a := .ok sampleInfraCluster)
    none rfl
  have h7 := h6.exchanged (q := .startGuard _) (a := true) none rfl
  have h8 := h7.exchanged (q := .service (.call (.readSecret .credentials _)))
    (a := .finished (.ok (some sampleSecret))) none rfl
  have h9 := h8.exchanged (q := .service (.connect _)) (a := .ok ()) none rfl
  have h10 := h9.exchanged (q := .service (.call (.getInstance "i-1")))
    (a := .finished (.ok sampleInstance)) none rfl
  have h11 := h10.exchanged (q := .service (.call (.deleteInstance "i-1")))
    (a := .finished (.ok ())) none rfl
  have h12 := h11.exchanged (q := .service (.publish _)) (a := ()) none rfl
  have released : Store.IsFresh
      ((((Store.ofVersion sampleMachine).put sampleLabelled).put sampleRecorded).put sampleDeleted)
      sampleReleased := .of_not_mem rfl (by decide)
  have h13 := h12.exchanged (q := .replace .infraMachine _ _ _) (a := .ok sampleReleased)
    (some sampleReleased)
    ⟨rfl, rfl, rfl, ⟨sampleDeleted, rfl, .inr rfl⟩, released, fun cur hcur => by
      obtain rfl : sampleDeleted = cur := Option.some.inj hcur
      exact ⟨rfl, rfl, rfl⟩⟩
  have h14 := h13.exchanged (q := .forgetFailures _) (a := ()) none rfl
  have history := h14.ended
  refine ⟨_, _, history, ?_, ?_, ?_, rfl, ?_⟩
  · exact ⟨trivial, trivial, trivial, trivial, trivial, trivial, trivial, trivial, trivial, trivial,
      trivial, trivial, lands⟩
  · have leads : ∀ (α : Type) (onward : α → Bool) (found : α), onward found = true →
        Progress.Leads onward (.ok (some found)) := by
      intro α onward found on result hr
      obtain rfl := Except.ok.inj hr
      exact on
    exact ⟨trivial, trivial, trivial, trivial, trivial, fun _ => rfl,
      fun _ => ⟨sampleSecret, { clientId := "id", clientSecret := "secret" }, rfl, rfl⟩, trivial,
      fun _ => leads _ _ _ rfl, fun _ => leads _ _ _ rfl, fun _ => leads _ _ _ rfl,
      fun _ _ => rfl, resolves⟩
  · have same : [sampleInstance.id] ⊆ [sampleInstance.id] := List.Subset.refl _
    have nothing : ([] : List String) ⊆ [] := List.Subset.refl _
    exact .ended (.exchanged (.exchanged (.exchanged (.exchanged (.exchanged (.exchanged (.exchanged
      (.exchanged (.exchanged (.exchanged (.exchanged (.exchanged (.began (.edited cloud same) same)
      same) same) same) same) same) same) same) ⟨rfl, same⟩) ⟨by decide, List.nil_subset _⟩)
      nothing) nothing) nothing) nothing
  · have member : sampleInstance ∈ created (later ++ .edited sampleLabelled :: earlier) := by
      rw [created_append]
      refine List.mem_append_right _ ?_
      change sampleInstance ∈ created earlier
      rw [first]
      exact List.mem_singleton_self _
    exact member

theorem no_instance_without_finalizer_of_sample : ∃ past s,
    History "default" "gpu-0" past s ∧ RecordsLand past ∧ CleanupsResolve past ∧
      CloudHistory past [] ∧ s.store.current = none ∧ sampleInstance ∈ created past ∧
      sampleInstance.id ∉ ([] : List String) := by
  obtain ⟨past, s, history, lands, resolves, cloud, gone, member⟩ := sample_cleanup
  have free : ∀ cur, s.store.current = some cur → cur.hasFinalizer finalizer = false := by
    intro cur hcur
    rw [gone] at hcur
    cases hcur
  have absent := no_instance_without_finalizer history lands resolves cloud free
  exact ⟨past, s, history, lands, resolves, cloud, gone, member, absent _ member⟩

end MachineProvider.InfraMachine
