import MachineProvider.Proofs.Condition
import MachineProvider.Proofs.Machine.Advance

/-!
# Readiness and the observed instance

A machine should be reported as ready exactly while its instance runs (`Reflects`). A reconcile that
sees the instance running reports that, and one that sees it terminated takes it back; a reconcile
that sees the instance in any other state leaves `ready` as it was. So the report is right as long
as the instance has not been seen running before, and wrong afterwards (`reflects_iff`).
-/

namespace MachineProvider.InfraMachine

variable {m o : InfraMachine} {seen : List Instance} {i : Instance}

/-- Whether the condition on the instance says that it is ready. -/
def reportsReady (m : InfraMachine) : Bool :=
  Condition.holds m.statusOrNew.conditions Condition.instanceReady

/-- Whether a machine reports an instance that is in a state as it should: the condition on the
instance holds exactly when it runs, and the machine is ready exactly when the condition holds. -/
structure Reflects (m : InfraMachine) (state : InstanceState) : Prop where
  condition : m.reportsReady = true ↔ state = .running
  ready : m.isReady = m.reportsReady

section Effects

variable (m) (reason message : String) (severity : Severity) (now : Timestamp)

@[simp] theorem reportsReady_notReadyAt :
    (m.notReadyAt reason message severity now).reportsReady = false :=
  Condition.holds_markFalse ..

@[simp] theorem isReady_notReadyAt :
    (m.notReadyAt reason message severity now).isReady = m.isReady := rfl

@[simp] theorem reportsReady_failedAt : (m.failedAt message now).reportsReady = false :=
  Condition.holds_markFalse ..

@[simp] theorem isReady_failedAt : (m.failedAt message now).isReady = false := rfl

@[simp] theorem isFailed_failedAt : (m.failedAt message now).isFailed = true := rfl

@[simp] theorem reportsReady_runningAt : (m.runningAt now i).reportsReady = true :=
  Condition.holds_markTrue ..

@[simp] theorem isReady_runningAt : (m.runningAt now i).isReady = true := rfl

@[simp] theorem reportsReady_recordState (state : InstanceState) :
    (m.recordState state).reportsReady = m.reportsReady := rfl

@[simp] theorem isReady_recordState (state : InstanceState) :
    (m.recordState state).isReady = m.isReady := rfl

@[simp] theorem isReady_stampProviderId (providerId : String) :
    (m.stampProviderId providerId).isReady = m.isReady := by
  unfold stampProviderId
  split <;> rfl

@[simp] theorem isReady_pushFinalizer (name : String) :
    InfraMachine.isReady (m.pushFinalizer name) = m.isReady := rfl

end Effects

/-- Whether a machine is ready if the condition on its instance says so. -/
def Supports (m : InfraMachine) : Prop :=
  m.reportsReady = true → m.isReady = true

theorem Supports.projects (h : m.Supports) (projects : Projects m i o) : o.Supports := by
  cases projects with
  | stopped state => exact h
  | _ => simp [Supports]

theorem Supports.advances (h : m.Supports) (advances : Advances m seen o) : o.Supports := by
  cases advances with
  | kept => exact h
  | guarded bare => exact h
  | held active reason message severity now => simp [Supports]
  | vanished active named now => simp [Supports]
  | found active named projects => exact h.projects projects
  | launched active unnamed now projects => exact Supports.projects (by simp [Supports]) projects

/-- A report on an instance is right when the instance runs or is gone, or the machine was not
ready. -/
theorem Projects.reflects_iff_of_supports (h : m.Supports) (projects : Projects m i o) :
    o.Reflects i.state ↔ i.state = .running ∨ i.state = .terminated ∨ m.isReady = false := by
  constructor
  · rintro ⟨condition, ready⟩
    cases projects with
    | running state now => exact .inl state
    | terminated state now => exact .inr (.inl state)
    | stopped state =>
        have silent : ¬ (m.recordState i.state).reportsReady = true := by
          rw [condition, state]
          nofun
        exact .inr (.inr (ready.trans (Bool.eq_false_iff.mpr silent)))
    | between idle asleep alive message severity now => exact .inr (.inr (by simpa using ready))
  · intro right
    cases projects with
    | running state now => exact ⟨by simp [state], by simp⟩
    | terminated state now => exact ⟨by simp [state], by simp⟩
    | stopped state =>
        have unready : m.isReady = false := by simpa [state] using right
        have silent : m.reportsReady = false := by
          rw [← Bool.not_eq_true]
          exact fun reported => Bool.false_ne_true (unready.symm.trans (h reported))
        exact ⟨by simp [state, silent], by simp [unready, silent]⟩
    | between idle asleep alive message severity now =>
        have unready : m.isReady = false := by simpa [idle, alive] using right
        exact ⟨by simp [idle], by simpa using unready⟩

/-- A machine whose instance is observed is worked on, and the instance is reported on for it or for
what it becomes with the name of the instance, which is ready when it is. -/
theorem Advances.projects (advances : Advances m seen o) (shown : i ∈ seen) (h : m.Supports) :
    m.IsActive ∧ ∃ p : InfraMachine, p.Supports ∧ p.isReady = m.isReady ∧ Projects p i o := by
  cases advances with
  | found active named projects =>
      obtain rfl := List.mem_singleton.mp shown
      exact ⟨active, m, h, rfl, projects⟩
  | launched active unnamed now projects =>
      obtain rfl := List.mem_singleton.mp shown
      exact ⟨active, _, by simp [Supports], by simp, projects⟩
  | _ => cases shown

/-- A machine becomes ready when its instance is seen running, and stays so unless it fails. -/
theorem Advances.isReady_iff (advances : Advances m seen o) (sound : o.isFailed = false) :
    o.isReady = true ↔ m.isReady = true ∨ ∃ i ∈ seen, i.state = .running := by
  have projected : ∀ {p : InfraMachine} {i : Instance}, p.isReady = m.isReady → Projects p i o →
      (o.isReady = true ↔ m.isReady = true ∨ ∃ j ∈ [i], j.state = .running) := by
    intro p i same projects
    cases projects with
    | running state now => simp [state]
    | stopped state => simp [same, state]
    | terminated state now => simp at sound
    | between idle asleep alive message severity now => simp [same, idle]
  cases advances with
  | kept => simp
  | guarded bare => simp
  | held active reason message severity now => simp
  | vanished active named now => simp at sound
  | found active named projects => exact projected rfl projects
  | launched active unnamed now projects => exact projected (by simp) projects

/-- A machine that has failed is left as it is. -/
theorem Advances.isFailed (advances : Advances m seen o) (failed : m.isFailed = true) :
    o.isFailed = true := by
  have idle : ¬ m.IsActive := fun active => Bool.false_ne_true (active.sound.symm.trans failed)
  cases advances with
  | kept => exact failed
  | guarded bare => exact failed
  | held active reason message severity now => exact absurd active idle
  | vanished active named now => exact absurd active idle
  | found active named projects => exact absurd active idle
  | launched active unnamed now projects => exact absurd active idle

/-- A machine that has failed is left as it is by every sequence of reconciles. -/
theorem isFailed_after (failed : m.isFailed = true) (turns : List Turn) :
    (m.after turns).isFailed = true :=
  after_induction (P := fun o => o.isFailed = true) failed
    (fun _ _ _ failed advances => advances.isFailed failed) turns

/-- Whether the instance of a machine is seen running in a sequence of reconciles. -/
def IsSeenRunning (m : InfraMachine) : List Turn → Prop
  | [] => False
  | t :: rest => (∃ i ∈ t.observed m, i.state = .running) ∨ (t.next m).IsSeenRunning rest

/-- A machine without a failure is ready when it was at first, or its instance was seen running. -/
theorem isReady_after_iff (turns : List Turn) (sound : (m.after turns).isFailed = false) :
    (m.after turns).isReady = true ↔ m.isReady = true ∨ m.IsSeenRunning turns := by
  induction turns generalizing m with
  | nil => simp [after, IsSeenRunning]
  | cons t rest ih =>
      have still : (t.next m).isFailed = false := by
        rw [← Bool.not_eq_true] at sound ⊢
        exact fun failed => sound (isFailed_after failed rest)
      have first := (t.advances m).isReady_iff still
      exact (ih sound).trans (by rw [first, or_assoc]; rfl)

/-- A reconcile that observes the instance of a machine reports it as it should exactly when the
instance runs or is terminated, or has not been seen running by any earlier reconcile. -/
theorem reflects_iff (fresh : m.status = none) (turns : List Turn) (t : Turn)
    (shown : i ∈ t.observed (m.after turns)) :
    (t.next (m.after turns)).Reflects i.state ↔
      i.state = .running ∨ i.state = .terminated ∨ ¬ m.IsSeenRunning turns := by
  have empty : m.statusOrNew = {} := by rw [statusOrNew, fresh, Option.getD_none]
  have supported : m.Supports := by
    rw [Supports, reportsReady, empty]
    nofun
  have unready : m.isReady = false := by rw [isReady, empty]
  have supports : (m.after turns).Supports :=
    after_induction supported (fun _ _ _ => Supports.advances) turns
  obtain ⟨active, p, backed, same, projects⟩ := (t.advances (m.after turns)).projects shown supports
  have history := isReady_after_iff turns active.sound
  rw [projects.reflects_iff_of_supports backed, same, ← Bool.not_eq_true, history, unready]
  simp

/-- The machine is seen running and then stopped, and is still reported as ready. -/
theorem reflects_iff_of_sample :
    let before := sampleMachine.after [sampleTurn .running]
    let stopped := sampleTurn .stopped
    sampleMachine.status = none ∧
      { sampleInstance with state := .stopped } ∈ stopped.observed before ∧
      ¬ (stopped.next before).Reflects .stopped := by
  intro before stopped
  have fresh : sampleMachine.status = none := rfl
  have shown : { sampleInstance with state := .stopped } ∈ stopped.observed before :=
    List.mem_singleton_self _
  have running : sampleMachine.IsSeenRunning [sampleTurn .running] :=
    .inl ⟨{ sampleInstance with state := .running }, List.mem_singleton_self _, rfl⟩
  refine ⟨fresh, shown, ?_⟩
  rw [reflects_iff fresh [sampleTurn .running] stopped shown]
  simp [running]

end MachineProvider.InfraMachine
