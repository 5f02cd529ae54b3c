import MachineProvider.Proofs.Machine.FinalFailure
import MachineProvider.Proofs.Machine.SingleInstance

/-!
# A recorded failure stays recorded

Runs of the controller and writes of other clients alternate as they like, and the other clients never
clear a failure. Whether a failure that was recorded once stays recorded depends on one thing: that a
run which reads the machine again, because a write of its own was refused, finds no failure there that
the refused write lacked (`Course.failure_latched`). A run that finds one writes over it
(`failure_cleared_by_repeated_write`).
-/

namespace MachineProvider.InfraMachine

open Procedure

/-- The machine as it is stored, and the run that is in progress. -/
structure Scene where
  store : Store InfraMachine
  running : Option (Controller Run)
  sight : Sight
  /-- The versions that had been stored when the run began. -/
  earlier : List InfraMachine

section Courses

variable («namespace» name : String)
  (rule : Sight → (q : Controller.Question) → Controller.Answer q → Prop)

/-- The scenes that runs of the controller and other clients lead to, as long as the answers keep to a
rule. Other clients change what they like, but they clear no failure. -/
inductive Course : Scene → Prop
  | start {m : InfraMachine} (versioned : (version m).isSome = true) :
    Course ⟨.ofVersion m, none, {}, []⟩
  | began {store : Store InfraMachine} {sight : Sight} {earlier : List InfraMachine} (config : Config)
    (gzip : Gzip.Compressor) (before : Course ⟨store, none, sight, earlier⟩) :
    Course ⟨store, some (run (some «namespace») name config gzip), {}, store.versions⟩
  | exchanged {store : Store InfraMachine} {sight : Sight} {earlier : List InfraMachine}
    {q : Controller.Question} {next : Controller.Answer q → Controller Run} {a : Controller.Answer q}
    (before : Course ⟨store, some (.ask q next), sight, earlier⟩) (stored : Option InfraMachine)
    (served : Serves «namespace» name store q a stored) (keeps : rule sight q a) :
    Course ⟨absorbAny store stored, some (next a), sight.next q a, earlier⟩
  /-- A run is over, or is broken off. -/
  | ended {store : Store InfraMachine} {rest : Controller Run} {sight : Sight}
    {earlier : List InfraMachine} (before : Course ⟨store, some rest, sight, earlier⟩) :
    Course ⟨store, none, sight, earlier⟩
  /-- Another client stores a version. -/
  | edited {s : Scene} {cur v : InfraMachine} (before : Course s) (stored : s.store.current = some cur)
    (keeps : KeepsFailure cur v) (fresh : s.store.IsFresh v) :
    Course { s with store := absorb s.store v }
  /-- Another client deletes the machine, which has no finalizers. -/
  | removed {s : Scene} (before : Course s) : Course { s with store := s.store.remove }

end Courses

variable {«namespace» name : String}

/-- Every version that was stored keeps the failures of those before it. -/
def Latched (store : Store InfraMachine) : Prop :=
  store.versions.Pairwise fun later earlier => KeepsFailure earlier later

/-- What is true of every scene. -/
structure Sober (s : Scene) : Prop where
  lawful : s.store.Lawful
  latched : Latched s.store
  known : ∀ m, s.sight.known = some m → m ∈ s.store.versions
  earlier : s.earlier ⊆ s.store.versions
  /-- A run that began after a failure was recorded sees a failure. -/
  late : ∀ f ∈ s.earlier, f.isFailed = true → ∀ m, s.sight.known = some m → m.isFailed = true
  follows : ∀ p, s.running = some p → p.Follows Sight.discipline (fun _ _ => True) s.sight

section Steps

variable {store : Store InfraMachine} {cur v : InfraMachine}

/-- The current version keeps the failures of all others. -/
theorem Latched.keeps_current (h : Latched store) (lawful : store.Lawful)
    (current : store.current = some cur) {w : InfraMachine} (member : w ∈ store.versions) :
    KeepsFailure w cur := by
  have head := lawful.current cur current
  unfold Latched at h
  cases versions : store.versions with
  | nil =>
      rw [versions] at head
      cases head
  | cons last rest =>
      rw [versions] at head member h
      obtain rfl : last = cur := Option.some.inj head
      rcases List.mem_cons.mp member with rfl | older
      · exact .of_status rfl
      · exact (List.pairwise_cons.mp h).1 w older

/-- A version that keeps the failures of the current one may be stored. -/
theorem Latched.absorb (h : Latched store) (lawful : store.Lawful)
    (current : store.current = some cur) (keeps : KeepsFailure cur v) :
    Latched (absorb store v) := by
  unfold Latched
  rw [absorb_versions]
  refine List.pairwise_cons.mpr ⟨?_, h⟩
  intro w member
  exact (h.keeps_current lawful current member).trans keeps

end Steps

section Exchanges

variable {store : Store InfraMachine} {sight sight' : Sight} {stored : Option InfraMachine}
  {q : Controller.Question} {a : Controller.Answer q}

/-- What an exchange does: nothing, or the current version is read, or one is stored over it that keeps
its failure. -/
inductive Outcome (store : Store InfraMachine) (sight : Sight) : Option InfraMachine → Sight → Prop
  | kept {sight' : Sight} (known : ∀ m, sight'.known = some m → sight.known = some m) :
    Outcome store sight none sight'
  | read {sight' : Sight} {m : InfraMachine} (current : store.current = some m)
    (known : sight'.known = some m) : Outcome store sight none sight'
  | stored {sight' : Sight} {cur v : InfraMachine} (current : store.current = some cur)
    (fresh : store.IsFresh v) (keeps : KeepsFailure cur v)
    (known : ∀ m, sight'.known = some m → sight.known = some m ∨ m = v) :
    Outcome store sight (some v) sight'

/-- A write of metadata and specification stores the failure of the known version again. -/
theorem Stores.keeps_replaced {n nm : String} {m o v : InfraMachine}
    (h : Stores «namespace» name store n nm o v Replaces) (lawful : store.Lawful)
    (member : m ∈ store.versions) (onto : version o = version m) :
    store.current = some m ∧ store.IsFresh v ∧ v.status = m.status := by
  obtain ⟨current, fresh, replaces⟩ := h.current lawful member onto
  exact ⟨current, fresh, replaces.status⟩

/-- A write of the status stores the failure of the known version again. -/
theorem Stores.keeps_noted {n nm : String} {m o v : InfraMachine}
    (h : Stores «namespace» name store n nm o v ReplacesStatus) (lawful : store.Lawful)
    (member : m ∈ store.versions) (onto : version o = version m) (keeps : KeepsFailure m o) :
    store.current = some m ∧ store.IsFresh v ∧ KeepsFailure m v := by
  obtain ⟨current, fresh, replaces⟩ := h.current lawful member onto
  exact ⟨current, fresh, keeps.trans (.of_status replaces.status)⟩

/-- Whatever a run may ask is answered without harm to the failures that are recorded. -/
theorem outcome_of_serves (lawful : store.Lawful)
    (member : ∀ m, sight.known = some m → m ∈ store.versions) (may : sight.May q)
    (served : Serves «namespace» name store q a stored) :
    Outcome store sight stored (sight.next q a) ∧ sight.KeepsStatus q a := by
  have same : ∀ m, sight.known = some m → sight.known = some m := fun _ => id
  have nothing {P : InfraMachine → Prop} : ∀ m, none = some m → P m := by
    intro m none
    cases none
  cases q with
  | service question =>
      obtain rfl : stored = none := served
      exact ⟨.kept same, trivial⟩
  | startGuard timeout =>
      obtain rfl : stored = none := served
      exact ⟨.kept same, trivial⟩
  | forgetFailures key =>
      obtain rfl : stored = none := served
      exact ⟨.kept same, trivial⟩
  | fetch kind n nm =>
      cases kind with
      | infraMachine =>
          rcases a with (e | m)
          · obtain rfl : stored = none := served
            exact ⟨.kept same, trivial⟩
          · obtain ⟨-, -, current, rfl⟩ := served
            exact ⟨.read current rfl, trivial⟩
      | _ =>
          obtain rfl : stored = none := served
          exact ⟨.kept same, trivial⟩
  | replace kind n nm o =>
      cases kind with
      | infraMachine =>
          obtain ⟨m, known, onto⟩ := may
          rcases a with (e | v)
          · cases stored with
            | none => exact ⟨.kept nothing, trivial⟩
            | some v =>
                obtain ⟨-, stores⟩ := served v rfl
                obtain ⟨current, fresh, status⟩ := stores.keeps_replaced lawful (member m known) onto
                exact ⟨.stored current fresh (.of_status status) nothing, trivial⟩
          · obtain ⟨rfl, stores⟩ := served
            obtain ⟨current, fresh, status⟩ := stores.keeps_replaced lawful (member m known) onto
            refine ⟨.stored current fresh (.of_status status) ?_, ?_⟩
            · intro m' known'
              exact .inr (Option.some.inj known').symm
            · intro m' known'
              obtain rfl : m = m' := Option.some.inj (known.symm.trans known')
              exact status
      | _ => exact may.elim
  | replaceStatus kind n nm o =>
      cases kind with
      | infraMachine =>
          obtain ⟨m, known, onto, keeps⟩ := may
          rcases a with (e | ⟨⟩)
          · cases stored with
            | none => exact ⟨.kept same, trivial⟩
            | some v =>
                obtain ⟨-, stores⟩ := served v rfl
                obtain ⟨current, fresh, keeps'⟩ := stores.keeps_noted lawful (member m known) onto keeps
                exact ⟨.stored current fresh keeps' fun _ => .inl, trivial⟩
          · obtain ⟨v, rfl, stores⟩ := served
            obtain ⟨current, fresh, keeps'⟩ := stores.keeps_noted lawful (member m known) onto keeps
            exact ⟨.stored current fresh keeps' fun _ => .inl, trivial⟩
      | _ => exact may.elim

/-- The scene after an exchange with such an outcome. -/
theorem Sober.of_outcome {running : Option (Controller Run)} {earlier : List InfraMachine}
    {rest : Controller Run} (h : Sober ⟨store, running, sight, earlier⟩)
    (outcome : Outcome store sight stored sight')
    (follows : rest.Follows Sight.discipline (fun _ _ => True) sight') :
    Sober ⟨absorbAny store stored, some rest, sight', earlier⟩ := by
  have follows' : ∀ p, some rest = some p → p.Follows Sight.discipline (fun _ _ => True) sight' := by
    rintro p ⟨⟩
    exact follows
  cases outcome with
  | kept known =>
      exact
        { lawful := h.lawful
          latched := h.latched
          known := fun m hm => h.known m (known m hm)
          earlier := h.earlier
          late := fun f hf failed m hm => h.late f hf failed m (known m hm)
          follows := follows' }
  | @read _ m current known =>
      have only : ∀ m', sight'.known = some m' → m' = m := by
        intro m' known'
        exact Option.some.inj (known'.symm.trans known)
      exact
        { lawful := h.lawful
          latched := h.latched
          known := fun m' hm => only m' hm ▸ h.lawful.mem_of_current current
          earlier := h.earlier
          late := by
            intro f hf failed m' hm
            rw [only m' hm]
            exact (h.latched.keeps_current h.lawful current (h.earlier hf)).isFailed failed
          follows := follows' }
  | @stored _ cur v current fresh keeps known =>
      exact
        { lawful := lawful_absorb h.lawful fresh
          latched := h.latched.absorb h.lawful current keeps
          known := by
            intro m hm
            simp only [absorbAny, absorb_versions]
            rcases known m hm with before | rfl
            · exact List.mem_cons_of_mem _ (h.known m before)
            · exact List.mem_cons_self
          earlier := by
            simp only [absorbAny, absorb_versions]
            exact List.Subset.trans h.earlier (List.subset_cons_self _ _)
          late := by
            intro f hf failed m hm
            rcases known m hm with before | rfl
            · exact h.late f hf failed m before
            · have kept := h.latched.keeps_current h.lawful current (h.earlier hf)
              exact (kept.trans keeps).isFailed failed
          follows := follows' }

end Exchanges

/-- Every scene is sober when runs heed what they read again. -/
theorem Course.sober {s : Scene} (h : Course «namespace» name Sight.Heeds s) : Sober s := by
  have nothing {α : Type} {P : α → Prop} : ∀ a, none = some a → P a := by
    intro a none
    cases none
  induction h with
  | start versioned =>
      exact
        { lawful := .ofVersion versioned
          latched := List.pairwise_singleton _ _
          known := nothing
          earlier := List.nil_subset _
          late := fun _ _ _ => nothing
          follows := nothing }
  | began config gzip before ih =>
      exact
        { lawful := ih.lawful
          latched := ih.latched
          known := nothing
          earlier := List.Subset.refl _
          late := fun _ _ _ => nothing
          follows := by
            rintro p ⟨⟩
            exact run_follows_sight «namespace» name config gzip }
  | exchanged before stored served keeps ih =>
      obtain ⟨may, rest⟩ := ih.follows _ rfl
      obtain ⟨outcome, keepsStatus⟩ := outcome_of_serves ih.lawful ih.known may served
      exact ih.of_outcome outcome (rest _ ⟨keeps, keepsStatus⟩)
  | ended before ih =>
      exact
        { lawful := ih.lawful
          latched := ih.latched
          known := ih.known
          earlier := ih.earlier
          late := ih.late
          follows := nothing }
  | edited before stored keeps fresh ih =>
      exact
        { lawful := lawful_absorb ih.lawful fresh
          latched := ih.latched.absorb ih.lawful stored keeps
          known := by
            intro m hm
            rw [absorb_versions]
            exact List.mem_cons_of_mem _ (ih.known m hm)
          earlier := by
            rw [absorb_versions]
            exact List.Subset.trans ih.earlier (List.subset_cons_self _ _)
          late := ih.late
          follows := ih.follows }
  | removed before ih =>
      exact
        { lawful := ih.lawful.remove
          latched := ih.latched
          known := ih.known
          earlier := ih.earlier
          late := ih.late
          follows := ih.follows }

/-- A failure that was recorded once stays recorded, and a run that begins afterwards engages the cloud
only for a deleted machine, provided that a run which reads the machine again after a refused write finds
no failure there that the write lacked. -/
theorem Course.failure_latched {s : Scene} (h : Course «namespace» name Sight.Heeds s) :
    Latched s.store ∧
      ∀ f ∈ s.earlier, f.isFailed = true → ∀ q next, s.running = some (.ask (.service q) next) →
        Sight.Engages q → ∃ m, s.sight.known = some m ∧ m.metadata.isDeleted = true := by
  have sober := h.sober
  refine ⟨sober.latched, ?_⟩
  intro f member failed q next running engages
  obtain ⟨may, -⟩ := sober.follows _ running
  obtain ⟨m, known, deleted⟩ := may engages
  exact ⟨m, known, deleted (sober.late f member failed m known)⟩

/-- The machine when it is deleted after a failure was recorded. -/
def sampleGivenUp : InfraMachine :=
  { sampleMachine with
    metadata := { sampleMachine.metadata with
      deletionTimestamp := some default, resourceVersion := some "2" }
    status := some { failureReason := some updateError, failureMessage := some "out of service" } }

/-- A failure is recorded and the machine is deleted. The run after that is about to read the credentials
for the cleanup. -/
theorem failure_latched_of_sample : ∃ s q next,
    Course "default" "gpu-0" Sight.Heeds s ∧ s.store.versions = [sampleGivenUp, sampleMachine] ∧
      sampleGivenUp ∈ s.earlier ∧ sampleGivenUp.isFailed = true ∧
      s.running = some (.ask (.service q) next) ∧ Sight.Engages q ∧ Latched s.store ∧
      ∃ m, s.sight.known = some m ∧ m.metadata.isDeleted = true := by
  have c0 : Course "default" "gpu-0" Sight.Heeds ⟨.ofVersion sampleMachine, none, {}, []⟩ := .start rfl
  have fresh : Store.IsFresh (.ofVersion sampleMachine) sampleGivenUp := .of_not_mem rfl (by decide)
  have c1 := c0.edited rfl (.of_not_failed rfl) fresh
  have c2 := c1.began {} Gzip.encode
  have c3 := c2.exchanged (q := .fetch .infraMachine _ _) (a := .ok sampleGivenUp) none
    ⟨rfl, rfl, rfl, rfl⟩ fun o own => absurd own (Option.some_ne_none o).symm
  have c4 := c3.exchanged (q := .fetch .machine _ _) (a := .ok sampleOwner) none rfl trivial
  have c5 := c4.exchanged (q := .fetch .cluster _ _) (a := .ok sampleCluster) none rfl trivial
  have c6 := c5.exchanged (q := .fetch .infraCluster _ _) (a := .ok sampleInfraCluster) none rfl trivial
  have c7 := c6.exchanged (q := .startGuard _) (a := true) none rfl trivial
  have failed : sampleGivenUp.isFailed = true := rfl
  have member : sampleGivenUp ∈ [sampleGivenUp, sampleMachine] := List.mem_cons_self
  obtain ⟨latched, late⟩ := c7.failure_latched
  exact ⟨_, .call (.readSecret .credentials _), _, c7, rfl, member, failed, rfl, trivial, latched,
    late sampleGivenUp member failed (.call (.readSecret .credentials _)) _ rfl trivial⟩

/-- The machine after an operator has recorded a failure. -/
def sampleFailed : InfraMachine :=
  { sampleMachine with
    metadata := { sampleMachine.metadata with resourceVersion := some "2" }
    status := some { failureReason := some updateError, failureMessage := some "out of service" } }

/-- The machine with the failure and the provider ID. -/
def sampleFailedRecorded : InfraMachine :=
  { sampleFailed with
    metadata := { sampleFailed.metadata with resourceVersion := some "3" }
    spec := { sampleMachine.spec with providerId := some (ProviderId.ofInstance sampleInstance.id) } }

/-- The machine with the status of the run that created its instance. -/
def sampleRevived : InfraMachine :=
  { sampleFailedRecorded with
    metadata := { sampleFailed.metadata with resourceVersion := some "4" }
    status := some
      { instanceState := some .pending
        conditions := Condition.markFalse
          (Condition.markFalse [] Condition.instanceReady Condition.instanceNotReady .info "" default)
          Condition.instanceReady Condition.instanceNotReady .info "Instance is pending" default } }

/-- An operator records a failure while the instance of the machine is being created. The write of the run
is refused, it is repeated on the version with the failure, and the failure is gone. -/
theorem failure_cleared_by_repeated_write : ∃ s,
    Course "default" "gpu-0" (fun _ _ _ => True) s ∧ sampleFailed ∈ s.store.versions ∧
      sampleFailed.isFailed = true ∧ s.store.current = some sampleRevived ∧
      sampleRevived.isFailed = false := by
  have c0 : Course "default" "gpu-0" (fun _ _ _ => True) ⟨.ofVersion sampleMachine, none, {}, []⟩ :=
    .start rfl
  have c1 := c0.began {} Gzip.encode
  have c2 := c1.exchanged (q := .fetch .infraMachine _ _) (a := .ok sampleMachine)
    none ⟨rfl, rfl, rfl, rfl⟩ trivial
  have c3 := c2.exchanged (q := .fetch .machine _ _) (a := .ok sampleOwner) none rfl trivial
  have c4 := c3.exchanged (q := .fetch .cluster _ _) (a := .ok sampleCluster) none rfl trivial
  have c5 := c4.exchanged (q := .fetch .infraCluster _ _) (a := .ok sampleInfraCluster)
    none rfl trivial
  have c6 := c5.exchanged (q := .startGuard _) (a := true) none rfl trivial
  have c7 := c6.exchanged (q := .service (.call (.readSecret .credentials _)))
    (a := .finished (.ok (some sampleSecret))) none rfl trivial
  have c8 := c7.exchanged (q := .service (.connect _)) (a := .ok ()) none rfl trivial
  have c9 := c8.exchanged (q := .service (.call (.readSecret .bootstrapData _)))
    (a := .finished (.ok (some sampleSecret))) none rfl trivial
  have c10 := c9.exchanged (q := .service (.call (.createInstance _)))
    (a := .finished (.ok sampleInstance)) none rfl trivial
  have c11 := c10.exchanged (q := .service (.publish _)) (a := ()) none rfl trivial
  have c12 := c11.exchanged (q := .service .now) (a := default) none rfl trivial
  have c13 := c12.exchanged (q := .service .now) (a := default) none rfl trivial
  have failed : Store.IsFresh (.ofVersion sampleMachine) sampleFailed := .of_not_mem rfl (by decide)
  have c14 := c13.edited rfl (.of_not_failed rfl) failed
  have c15 := c14.exchanged (q := .replace .infraMachine _ _ _)
    (a := .error (.refused "the object has been modified" "Conflict" 409)) none
    (fun _ h => absurd h (Option.some_ne_none _).symm) trivial
  have c16 := c15.exchanged (q := .fetch .infraMachine _ _) (a := .ok sampleFailed)
    none ⟨rfl, rfl, rfl, rfl⟩ trivial
  have recorded : Store.IsFresh (.put (.ofVersion sampleMachine) sampleFailed) sampleFailedRecorded :=
    .of_not_mem rfl (by decide)
  have c17 := c16.exchanged (q := .replace .infraMachine _ _ _) (a := .ok sampleFailedRecorded)
    (some sampleFailedRecorded)
    ⟨rfl, rfl, rfl, ⟨sampleFailed, rfl, .inr rfl⟩, recorded, fun cur hcur => by
      obtain rfl : sampleFailed = cur := Option.some.inj hcur
      exact ⟨rfl, rfl, rfl⟩⟩ trivial
  have revived : Store.IsFresh
      (.put (.put (.ofVersion sampleMachine) sampleFailed) sampleFailedRecorded) sampleRevived :=
    .of_not_mem rfl (by decide)
  have c18 := c17.exchanged (q := .replaceStatus .infraMachine _ _ _) (a := .ok ())
    (some sampleRevived)
    ⟨sampleRevived, rfl, rfl, rfl, ⟨sampleFailedRecorded, rfl, .inr rfl⟩, revived, fun cur hcur => by
      obtain rfl : sampleFailedRecorded = cur := Option.some.inj hcur
      exact ⟨rfl, rfl, rfl⟩⟩ trivial
  exact ⟨_, c18, List.mem_cons_of_mem _ (List.mem_cons_of_mem _ List.mem_cons_self), rfl, rfl, rfl⟩

end MachineProvider.InfraMachine
