import MachineProvider.Proofs.Machine.Frame

/-!
# The record of an instance on a newer version of its machine

A reconcile that has created an instance gives back a machine that names it. Meanwhile others may
have stored a newer version of the machine, and then it is that version which takes the record:
`Rebased` says what comes of it. Nothing that others have written is lost but the status, and the
version is written exactly when it does not have the record yet (`rebase_next`). Only a version that
names another instance cannot take it.
-/

namespace MachineProvider.InfraMachine

/-- What a version of a machine becomes when it takes the record of an instance, which is a provider
ID and the status of the machine that was stamped with it. -/
structure Rebased (latest stamped : InfraMachine) (stamp : String) (o : InfraMachine) : Prop where
  /-- Nothing in the metadata changes but the finalizers. -/
  metadata : o.metadata = { latest.metadata with finalizers := o.metadata.finalizers }
  /-- The finalizers of others stay as they are, in their order. -/
  others : o.metadata.finalizerList.filter (· ≠ finalizer) =
    latest.metadata.finalizerList.filter (· ≠ finalizer)
  /-- The finalizer of the controller is there as often as before, and once if it was not there. -/
  guarded : o.metadata.finalizerList.count finalizer =
    if latest.hasFinalizer finalizer then latest.metadata.finalizerList.count finalizer else 1
  /-- Nothing in the specification changes but the provider ID. -/
  spec : o.spec = { latest.spec with providerId := some stamp }
  status : o.status = stamped.status
  /-- Taking the record again changes nothing. -/
  again : rebase? o stamped = some o
  /-- The object is written exactly when the provider ID or the finalizer is new. -/
  written : (@WritePlan.between .infraMachine latest o).replaceObject = true ↔
    latest.spec.providerId ≠ some stamp ∨ latest.hasFinalizer finalizer = false

variable {latest stamped : InfraMachine} {stamp : String}

/-- A version of a machine with a provider ID. -/
def namedOn (latest : InfraMachine) (stamp : String) : InfraMachine :=
  { latest with spec.providerId := some stamp }

/-- A version of a machine with a provider ID, a status and the finalizer of the controller. -/
def recordedOn (latest : InfraMachine) (stamp : String) (status : Option MachineStatus) :
    InfraMachine :=
  { (latest.namedOn stamp).addFinalizer finalizer with status }

/-- A version takes the record unless it names another instance. -/
theorem rebase?_of_guarded (named : stamped.spec.providerId = some stamp)
    (guarded : stamped.hasFinalizer finalizer = true) :
    rebase? latest stamped =
      if latest.spec.providerId.all (· = stamp) then
        some (latest.recordedOn stamp stamped.status)
      else none := by
  unfold rebase?
  rw [named]
  cases stored : latest.spec.providerId with
  | none => simp [guarded, recordedOn, namedOn]
  | some other =>
      by_cases same : other = stamp
      · simp [same, guarded, recordedOn, namedOn]
      · simp [same]

section Recorded

variable (latest) (stamp) (status : Option MachineStatus)

theorem finalizerList_recordedOn : (latest.recordedOn stamp status).metadata.finalizerList =
    latest.metadata.finalizerList ++ if latest.hasFinalizer finalizer then [] else [finalizer] :=
  Object.finalizerList_addFinalizer (latest.namedOn stamp) finalizer

theorem spec_recordedOn :
    (latest.recordedOn stamp status).spec = { latest.spec with providerId := some stamp } :=
  Object.addFinalizer_spec (latest.namedOn stamp) finalizer

theorem hasFinalizer_recordedOn :
    (latest.recordedOn stamp status).hasFinalizer finalizer = true := by
  rw [Object.hasFinalizer, finalizerList_recordedOn]
  split
  next present => simpa [Object.hasFinalizer] using present
  · simp

/-- A machine that has the record stays as it is. -/
theorem recordedOn_eq_self {o : InfraMachine} (named : o.spec.providerId = some stamp)
    (guarded : o.hasFinalizer finalizer = true) : o.recordedOn stamp o.status = o := by
  have same : o.namedOn stamp = o := by rw [namedOn, ← named]
  rw [recordedOn, same, Object.addFinalizer, if_pos guarded]

/-- A version that takes the record is written when there is something new in it. -/
theorem replaceObject_recordedOn :
    (@WritePlan.between .infraMachine latest (latest.recordedOn stamp status)).replaceObject = true ↔
      latest.spec.providerId ≠ some stamp ∨ latest.hasFinalizer finalizer = false := by
  have finalizers : latest.metadata.finalizerList =
      (latest.recordedOn stamp status).metadata.finalizerList ↔
        latest.hasFinalizer finalizer = true := by
    rw [finalizerList_recordedOn]
    split <;> simp [*]
  have specs : latest.spec = (latest.recordedOn stamp status).spec ↔
      latest.spec.providerId = some stamp := by
    rw [spec_recordedOn]
    constructor
    · intro same
      rw [same]
    · intro named
      rw [← named]
  simp only [WritePlan.between, Bool.or_eq_true, bne_iff_ne, ne_eq]
  rw [finalizers, specs, Bool.not_eq_true, or_comm]

end Recorded

/-- A version that takes the record is as `Rebased` says. -/
theorem rebased_recordedOn (named : stamped.spec.providerId = some stamp)
    (guarded : stamped.hasFinalizer finalizer = true) :
    Rebased latest stamped stamp (latest.recordedOn stamp stamped.status) where
  metadata := Object.metadata_addFinalizer (latest.namedOn stamp) finalizer
  others := by
    rw [finalizerList_recordedOn]
    split <;> simp
  guarded := by
    rw [finalizerList_recordedOn]
    split
    · rw [List.append_nil]
    next absent =>
      have none : latest.metadata.finalizerList.count finalizer = 0 :=
        List.count_eq_zero.mpr fun member => absent (List.contains_iff_mem.mpr member)
      rw [List.count_append, none, List.count_singleton_self]
  spec := spec_recordedOn latest stamp stamped.status
  status := rfl
  again := by
    have recorded : (latest.recordedOn stamp stamped.status).spec.providerId = some stamp := by
      rw [spec_recordedOn]
    rw [rebase?_of_guarded named guarded, recorded, if_pos (by simp)]
    exact congrArg some (recordedOn_eq_self stamp recorded (hasFinalizer_recordedOn latest _ _))
  written := replaceObject_recordedOn latest stamp stamped.status

/-- Only a machine that is worked on is seen with an instance. -/
theorem Advances.isActive {m o : InfraMachine} {seen : List Instance} (h : Advances m seen o)
    {i : Instance} (member : i ∈ seen) : m.IsActive := by
  cases h with
  | kept => cases member
  | guarded bare => cases member
  | held active reason message severity now => exact active
  | vanished active named now => exact active
  | found active named projects => exact active
  | launched active unnamed now projects => exact active

namespace Turn

variable {t : Turn} {before : InfraMachine} {i : Instance}

/-- A reconcile that has created an instance gives back a machine with the finalizer that names
it. -/
theorem stamped_next (unnamed : before.spec.providerId = none)
    (created : .finished (.ok i) ∈ t.creations before) :
    (t.next before).spec.providerId = some ("datacrunch://" ++ i.id) ∧
      (t.next before).hasFinalizer finalizer = true := by
  have active : before.IsActive := (t.advances before).isActive ((created_iff unnamed i).mp created)
  exact ⟨((t.frame_next before).stamped unnamed _).mpr ⟨i, created, rfl⟩,
    (t.advances before).hasFinalizer active.guarded⟩

/-- When an instance was created for a machine that named none, the record of it can be put on
whatever others have made of the machine since, unless they have given it the ID of another
instance. `Rebased` says what comes of it. -/
theorem rebase_next (latest : InfraMachine) (unnamed : before.spec.providerId = none)
    (created : .finished (.ok i) ∈ t.creations before) :
    (rebase? latest (t.next before) = none ↔
        ∃ other, latest.spec.providerId = some other ∧ other ≠ "datacrunch://" ++ i.id) ∧
      ∀ o, rebase? latest (t.next before) = some o →
        Rebased latest (t.next before) ("datacrunch://" ++ i.id) o := by
  obtain ⟨named, guarded⟩ := stamped_next unnamed created
  rw [rebase?_of_guarded named guarded]
  split
  next free =>
    have free : ∀ other, latest.spec.providerId = some other → other = "datacrunch://" ++ i.id := by
      simpa [Option.all_eq_true] using free
    constructor
    · constructor
      · nofun
      · rintro ⟨other, stored, differs⟩
        exact absurd (free other stored) differs
    · rintro _ ⟨⟩
      exact rebased_recordedOn named guarded
  next taken =>
    constructor
    · simpa [Option.all_eq_true] using taken
    · exact fun _ none => nomatch none

/-- While the instance of the machine is created, the machine is labelled, a finalizer is added in
front of that of the controller, and the latter is removed. All of this stays, the machine names the
instance, and it has the finalizer again. -/
theorem rebase_next_of_sample :
    let latest : InfraMachine := { sampleMachine with
      metadata.labels := some (.ofList [("team", "ml")])
      metadata.finalizers := some ["backup"]
      metadata.resourceVersion := some "7" }
    sampleMachine.spec.providerId = none ∧
      .finished (.ok { sampleInstance with state := .running }) ∈
        (sampleTurn .running).creations sampleMachine ∧
      ∃ o, rebase? latest ((sampleTurn .running).next sampleMachine) = some o ∧
        Rebased latest ((sampleTurn .running).next sampleMachine) "datacrunch://i-1" o ∧
        o.metadata.finalizerList = ["backup", finalizer] ∧
        o.metadata.labels = latest.metadata.labels := by
  intro latest
  have created : .finished (.ok { sampleInstance with state := .running }) ∈
      (sampleTurn .running).creations sampleMachine := List.mem_singleton_self _
  have unnamed : sampleMachine.spec.providerId = none := rfl
  obtain ⟨-, rebased⟩ := rebase_next latest unnamed created
  exact ⟨unnamed, created, _, rfl, rebased _ rfl, rfl, rfl⟩

end Turn

end MachineProvider.InfraMachine
