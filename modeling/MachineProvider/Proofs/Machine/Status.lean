import MachineProvider.Proofs.Condition
import MachineProvider.Proofs.Machine.Advance

/-!
# How the fields of a machine's status fit together

The fields of a status are written at different points of a reconcile, and a reconcile may end after
each of them, with a failure too. `Coherent` says how the fields fit together all the same. It holds
of a machine without a status, every reconcile keeps it, and so it holds after every sequence of
reconciles (`coherent_after`).
-/

namespace MachineProvider

namespace MachineAddress

/-- Whether a list of addresses has one host name first, then at most one private and at most one
public IP, neither of them empty. -/
def AreCanonical (addresses : List MachineAddress) : Prop :=
  ∃ (host : String) (privateIp publicIp : Option String),
    addresses = ⟨.hostname, host⟩ ::
      (privateIp.toList.map (⟨.internalIp, ·⟩) ++ publicIp.toList.map (⟨.externalIp, ·⟩)) ∧
    (∀ ip ∈ privateIp, ip ≠ "") ∧ ∀ ip ∈ publicIp, ip ≠ ""

/-- The addresses of an instance are those that are known and not empty. -/
theorem ofInstance_eq (i : Instance) : ofInstance i = ⟨.hostname, i.name⟩ ::
    ((i.privateIp.filter (· ≠ "")).toList.map (⟨.internalIp, ·⟩) ++
      (i.publicIp.filter (· ≠ "")).toList.map (⟨.externalIp, ·⟩)) := by
  unfold ofInstance
  cases i.privateIp with
  | none =>
      cases i.publicIp with
      | none => rfl
      | some b => by_cases hb : b = "" <;> simp [Option.filter, hb]
  | some a =>
      cases i.publicIp with
      | none => by_cases ha : a = "" <;> simp [Option.filter, ha]
      | some b => by_cases ha : a = "" <;> by_cases hb : b = "" <;> simp [Option.filter, ha, hb]

theorem areCanonical_ofInstance (i : Instance) : AreCanonical (ofInstance i) := by
  refine ⟨i.name, _, _, ofInstance_eq i, ?_, ?_⟩ <;>
    exact fun ip known => by simpa using (Option.mem_filter_iff.mp known).2

end MachineAddress

namespace InfraMachine

variable {m o : InfraMachine}

/-- What a machine says that has failed for good with a message. -/
structure HasFailed (m : InfraMachine) (message : String) : Prop where
  unready : m.isReady = false
  named : m.spec.providerId.isSome = true
  guarded : m.hasFinalizer finalizer = true
  reported : ∃ time, Condition.get? m.statusOrNew.conditions Condition.instanceReady =
    some
      { type := Condition.instanceReady, status := "False", severity := .error
        lastTransitionTime := time, reason := some Condition.instanceTerminated
        message := some message }

/-- What a machine says that is ready. -/
structure IsSettled (m : InfraMachine) : Prop where
  known : m.statusOrNew.instanceState.isSome = true
  named : m.spec.providerId.isSome = true
  reachable : MachineAddress.AreCanonical m.statusOrNew.addresses

/-- How the fields of a machine's status fit together. -/
structure Coherent (m : InfraMachine) : Prop where
  /-- A failure has a reason and a message. -/
  paired : m.statusOrNew.failureReason.isSome = m.statusOrNew.failureMessage.isSome
  failed : ∀ message, m.statusOrNew.failureMessage = some message → m.HasFailed message
  observed : m.statusOrNew.instanceState.isSome = true → m.spec.providerId.isSome = true
  settled : m.isReady = true → m.IsSettled
  inOrder : Condition.InOrder m.statusOrNew.conditions

namespace IsActive

/-- A machine that is worked on has no failure. -/
theorem ne_failure (h : m.IsActive) (message : String) :
    m.statusOrNew.failureMessage ≠ some message := by
  have sound := h.sound
  rw [isFailed, Bool.or_eq_false_iff, Option.isSome_eq_false_iff,
    Option.isSome_eq_false_iff] at sound
  rw [Option.isNone_iff_eq_none.mp sound.2]
  exact (Option.some_ne_none message).symm

/-- A change that leaves failures and finalizers as they are leaves a machine worked on. -/
theorem of_eq (h : m.IsActive) (same : o.isFailed = m.isFailed)
    (guarded : o.metadata.finalizers = m.metadata.finalizers) : o.IsActive where
  sound := same.trans h.sound
  guarded := by
    have kept := h.guarded
    rwa [Object.hasFinalizer, Metadata.finalizerList, ← guarded] at kept

theorem stampProviderId (h : m.IsActive) (providerId : String) :
    (m.stampProviderId providerId).IsActive := by
  unfold InfraMachine.stampProviderId
  split
  · exact h
  · exact h.of_eq rfl rfl

theorem recordState (h : m.IsActive) (state : InstanceState) : (m.recordState state).IsActive :=
  h.of_eq rfl rfl

end IsActive

namespace Coherent

/-- A machine without a status says nothing that could contradict itself. -/
theorem of_status_eq_none (fresh : m.status = none) : m.Coherent := by
  have empty : m.statusOrNew = {} := by rw [statusOrNew, fresh, Option.getD_none]
  constructor
  · rw [empty]
  · rw [empty]
    nofun
  · rw [empty]
    nofun
  · rw [isReady, empty]
    nofun
  · rw [empty]
    exact Condition.inOrder_nil

theorem pushFinalizer (h : m.Coherent) (bare : m.hasFinalizer finalizer = false) :
    Coherent (m.pushFinalizer finalizer) where
  paired := h.paired
  failed message failed := absurd (h.failed message failed).guarded (by simp [bare])
  observed := h.observed
  settled ready := ⟨(h.settled ready).known, (h.settled ready).named, (h.settled ready).reachable⟩
  inOrder := h.inOrder

theorem stampProviderId (h : m.Coherent) (active : m.IsActive) (providerId : String) :
    (m.stampProviderId providerId).Coherent := by
  unfold InfraMachine.stampProviderId
  split
  · exact h
  · exact
    { paired := h.paired
      failed := fun message failed => absurd failed (active.ne_failure message)
      observed := fun _ => rfl
      settled := fun ready => ⟨(h.settled ready).known, rfl, (h.settled ready).reachable⟩
      inOrder := h.inOrder }

theorem recordState (h : m.Coherent) (active : m.IsActive)
    (named : m.spec.providerId.isSome = true) (state : InstanceState) :
    (m.recordState state).Coherent where
  paired := h.paired
  failed message failed := absurd failed (active.ne_failure message)
  observed _ := named
  settled ready := ⟨rfl, named, (h.settled ready).reachable⟩
  inOrder := h.inOrder

/-- Reporting that the instance is not ready does not touch the other fields. -/
theorem notReadyAt (h : m.Coherent) (active : m.IsActive) (reason message : String)
    (severity : Severity) (now : Timestamp) :
    (m.notReadyAt reason message severity now).Coherent where
  paired := h.paired
  failed message failed := absurd failed (active.ne_failure message)
  observed := h.observed
  settled ready := ⟨(h.settled ready).known, (h.settled ready).named, (h.settled ready).reachable⟩
  inOrder := h.inOrder.markFalse ..

theorem failedAt (h : m.Coherent) (guarded : m.hasFinalizer finalizer = true)
    (named : m.spec.providerId.isSome = true) {message : String} (said : message.isEmpty = false)
    (now : Timestamp) : (m.failedAt message now).Coherent where
  paired := rfl
  failed message' failed := by
    obtain rfl : message = message' := Option.some.inj failed
    obtain ⟨time, found⟩ := Condition.get?_markFalse m.statusOrNew.conditions
      Condition.instanceReady Condition.instanceTerminated message .error now
    rw [said] at found
    exact ⟨rfl, named, guarded, time, found⟩
  observed _ := named
  settled := nofun
  inOrder := h.inOrder.markFalse ..

theorem runningAt (h : m.Coherent) (active : m.IsActive) (named : m.spec.providerId.isSome = true)
    (known : m.statusOrNew.instanceState.isSome = true) (now : Timestamp) (found : Instance) :
    (m.runningAt now found).Coherent where
  paired := h.paired
  failed message failed := absurd failed (active.ne_failure message)
  observed _ := named
  settled _ := ⟨known, named, MachineAddress.areCanonical_ofInstance found⟩
  inOrder := h.inOrder.markTrue ..

/-- Reporting on an instance keeps a status coherent. -/
theorem projects {i : Instance} (h : m.Coherent) (active : m.IsActive)
    (named : m.spec.providerId.isSome = true) (projects : Projects m i o) : o.Coherent := by
  have recorded := h.recordState active named i.state
  have still := active.recordState i.state
  cases projects with
  | running state now => exact recorded.runningAt still named rfl now i
  | stopped state => exact recorded
  | terminated state now => exact recorded.failedAt still.guarded named (by decide) now
  | between idle asleep alive message severity now => exact recorded.notReadyAt still ..

/-- Every reconcile keeps a status coherent. -/
theorem advances {seen : List Instance} (h : m.Coherent) (advances : Advances m seen o) :
    o.Coherent := by
  cases advances with
  | kept => exact h
  | guarded bare => exact h.pushFinalizer bare
  | held active reason message severity now => exact h.notReadyAt active ..
  | vanished active named now =>
      refine h.failedAt active.guarded (by rw [named, Option.isSome_some]) ?_ now
      simp
  | found active named projects => exact h.projects active named projects
  | @launched active unnamed i now _ projects =>
      have named := providerId_stampProviderId m (ProviderId.ofInstance i.id)
      have stamped := h.stampProviderId active (ProviderId.ofInstance i.id)
      have still := active.stampProviderId (ProviderId.ofInstance i.id)
      exact (stamped.notReadyAt still ..).projects (still.of_eq rfl rfl) named projects

end Coherent

/-- However often a machine without a status is reconciled, and however the reconciles end, its
status is coherent, and no type occurs twice among its conditions. -/
theorem coherent_after (fresh : m.status = none) (turns : List Turn) :
    (m.after turns).Coherent ∧ ((m.after turns).statusOrNew.conditions.map (·.type)).Nodup := by
  have coherent : (m.after turns).Coherent :=
    after_induction (.of_status_eq_none fresh) (fun _ _ _ => Coherent.advances) turns
  exact ⟨coherent, coherent.inOrder.nodup⟩

theorem coherent_after_of_sample :
    let failed := sampleMachine.after [sampleTurn .running, sampleTurn .terminated]
    sampleMachine.status = none ∧ failed.Coherent ∧
      failed.HasFailed "Instance was terminated" ∧
      failed.statusOrNew.addresses = [⟨.hostname, "gpu-0"⟩] := by
  intro failed
  have fresh : sampleMachine.status = none := rfl
  have coherent := (coherent_after fresh [sampleTurn .running, sampleTurn .terminated]).1
  exact ⟨fresh, coherent, coherent.failed _ rfl, rfl⟩

end InfraMachine

end MachineProvider
