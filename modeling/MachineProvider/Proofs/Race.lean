import MachineProvider.Proofs.Guard

/-!
# Guarded calls as races

A call that may be given up and whose work has started is a race of the work against the
cancellation of the token and the deadline, which may have passed before the call started. It is
looked at in the order of time, and each of the three is a reason for a look that ends the call, so
that the first of them decides (`exists_first_look`). A call that is waited for is no race: what
happens after its start does not matter. `Conducts` says both, for every guard and all work.
-/

namespace MachineProvider.Guard

section Cancellation

variable {g : Guard} {instant : Nat}

/-- Whether the token is cancelled before an instant. -/
def IsCancelledBefore (g : Guard) (instant : Nat) : Prop :=
  g.cancelled = true ∨ ∃ c, g.cancelAt = some c ∧ c < instant

theorem isCancelled_iff : g.isCancelled { instant } = true ↔ g.IsCancelledBefore instant := by
  unfold isCancelled IsCancelledBefore
  cases g.cancelAt <;> simp

theorem isCancelled_eq_false_iff :
    g.isCancelled { instant } = false ↔ ¬ g.IsCancelledBefore instant :=
  Bool.eq_false_iff.trans (not_congr isCancelled_iff)

/-- A cancellation that has not come before an instant is still ahead. -/
theorem le_of_cancelAt {c : Nat} (active : ¬ g.IsCancelledBefore instant)
    (due : g.cancelAt = some c) : instant ≤ c := by
  refine Nat.le_of_not_lt fun early => ?_
  exact active (.inr ⟨c, due, early⟩)

/-- A token that was not cancelled at first is cancelled by its cancellation. -/
theorem exists_cancelAt {m : Moment} (active : ¬ g.IsCancelledBefore instant)
    (h : g.isCancelled m = true) : ∃ c, g.cancelAt = some c ∧ c ≤ m.instant := by
  have stopped : g.cancelled = false := by
    simpa using fun yes => active (.inl yes)
  unfold isCancelled at h
  rw [stopped, Bool.false_or] at h
  cases due : g.cancelAt with
  | none => simp [due] at h
  | some c =>
      refine ⟨c, rfl, ?_⟩
      simp [due] at h
      omega

end Cancellation

section Attempts

variable {ε α : Type}

/-- What the caller of guarded work gets, and when. -/
def attempt (g : Guard) (patience : Patience) (start duration : Nat) (result : Except ε α) :
    Outcome ε α × Nat :=
  let ended := g.call patience start duration
  (ended.outcome result, ended.instant start)

/-- What a call whose work has started may come to, and when. -/
inductive Contends (g : Guard) (start duration : Nat) (result : Except ε α) :
    Outcome ε α × Nat → Prop
  | work : Contends g start duration result (.finished result, start + duration)
  | deadline : Contends g start duration result
      (.abandoned .deadlineExceeded, max start g.deadline)
  | cancellation {c : Nat} (due : g.cancelAt = some c) :
    Contends g start duration result (.abandoned .cancelled, c)

/-- How calls under a guard go that start at an instant, with work that takes a time and has a
result. -/
structure Conducts (g : Guard) (start duration : Nat) (result : Except ε α) : Prop where
  /-- No work is started once the token is cancelled. -/
  cancelled : g.IsCancelledBefore start → ∀ patience,
    g.attempt patience start duration result = (.refused .cancelled, start)
  /-- A result that is there at once counts even when the deadline has passed. -/
  atOnce : ¬ g.IsCancelledBefore start → duration = 0 →
    g.attempt .interruptible start duration result = (.finished result, start)
  /-- The call comes to what the first of the contenders brings, when that one comes. -/
  first : ¬ g.IsCancelledBefore start →
    g.Contends start duration result (g.attempt .interruptible start duration result) ∧
      ∀ other, g.Contends start duration result other →
        (g.attempt .interruptible start duration result).2 ≤ other.2
  /-- No work that would be waited for is started after the deadline. -/
  late : ¬ g.IsCancelledBefore start → g.deadline ≤ start →
    g.attempt .untilFinished start duration result = (.refused .deadlineExceeded, start)
  /-- Work that is waited for ends with its own result. -/
  waited : ¬ g.IsCancelledBefore start → start < g.deadline →
    g.attempt .untilFinished start duration result = (.finished result, start + duration)

variable {g : Guard} {start duration : Nat} {result : Except ε α}

/-- A call is looked at when a contender comes. -/
theorem Contends.exists_wakeUp {other : Outcome ε α × Nat}
    (h : g.Contends start duration result other) (active : ¬ g.IsCancelledBefore start) :
    ∃ m ∈ g.wakeUps start (start + duration), m.instant = other.2 := by
  cases h with
  | work => exact ⟨_, mem_wakeUps.mpr (.inl rfl), rfl⟩
  | deadline => exact ⟨_, mem_wakeUps.mpr (.inr (.inl rfl)), rfl⟩
  | cancellation due =>
      have ahead := le_of_cancelAt active due
      exact ⟨_, mem_wakeUps.mpr (.inr (.inr ⟨_, due, ahead, rfl⟩)), rfl⟩

/-- What the first look that ends a call finds is a contender, and the look is when it comes. -/
theorem contends_of_look {m : Moment} {e : CallEnd} (result : Except ε α)
    (active : ¬ g.IsCancelledBefore start)
    (looked : g.look (start + duration) m = some e) (started : start ≤ m.instant)
    (first : ∀ m' ∈ g.wakeUps start (start + duration), m.instant ≤ m'.instant) :
    g.Contends start duration result (e.outcome result, e.instant start) ∧
      e.instant start = m.instant := by
  have bound {other : Outcome ε α × Nat} (contends : g.Contends start duration result other) :
      m.instant ≤ other.2 := by
    obtain ⟨m', member, same⟩ := contends.exists_wakeUp active
    rw [← same]
    exact first m' member
  unfold look at looked
  split at looked
  next cancelled =>
    cases looked
    refine ⟨?_, rfl⟩
    obtain ⟨c, due, reached⟩ := exists_cancelAt active cancelled
    have ahead := bound (.cancellation due)
    obtain rfl : c = m.instant := Nat.le_antisymm reached ahead
    exact .cancellation due
  split at looked
  next done =>
    cases looked
    refine ⟨?_, rfl⟩
    have ahead := bound .work
    obtain same : start + duration = m.instant := Nat.le_antisymm done ahead
    simp only [CallEnd.outcome, CallEnd.instant, ← same]
    exact .work
  split at looked
  next passed =>
    cases looked
    refine ⟨?_, rfl⟩
    have ahead := bound .deadline
    have same : max start g.deadline = m.instant := by
      simp only at ahead
      omega
    simp only [CallEnd.outcome, CallEnd.instant, ← same]
    exact .deadline
  · cases looked

variable (g start duration result)

/-- Every call is refused once the token is cancelled. -/
theorem call_of_isCancelledBefore (h : g.IsCancelledBefore start) (patience : Patience) :
    g.call patience start duration = .refused .cancelled := by
  have cancelled := isCancelled_iff.mpr h
  cases patience with
  | interruptible => simp [call, callInterruptibly, cancelled]
  | untilFinished => simp [call, callToCompletion, cancelled]

/-- How every call under every guard goes. -/
theorem conducts : g.Conducts start duration result where
  cancelled h patience := by
    have ended := call_of_isCancelledBefore g start duration h patience
    simp only [attempt, ended, CallEnd.outcome, CallEnd.instant]
  atOnce active ready := by
    have ended : g.call .interruptible start duration = .finished start := by
      rw [← isCancelled_eq_false_iff] at active
      simp [call, callInterruptibly, look, active, ready]
    simp only [attempt, ended, CallEnd.outcome, CallEnd.instant]
  first active := by
    obtain ⟨m, looked, started, first⟩ :=
      exists_first_look duration (isCancelled_eq_false_iff.mpr active)
    obtain ⟨contends, same⟩ := contends_of_look result active looked started first
    refine ⟨contends, ?_⟩
    intro other rival
    obtain ⟨m', member, comes⟩ := rival.exists_wakeUp active
    calc (g.attempt .interruptible start duration result).2 = m.instant := same
      _ ≤ m'.instant := first m' member
      _ = other.2 := comes
  late active passed := by
    have ended : g.call .untilFinished start duration = .refused .deadlineExceeded := by
      rw [← isCancelled_eq_false_iff] at active
      simp [call, callToCompletion, active, passed]
    simp only [attempt, ended, CallEnd.outcome, CallEnd.instant]
  waited active early := by
    have ended : g.call .untilFinished start duration = .finished (start + duration) := by
      rw [← isCancelled_eq_false_iff] at active
      simp [call, callToCompletion, active, Nat.not_le.mpr early]
    simp only [attempt, ended, CallEnd.outcome, CallEnd.instant]

/-- Work that takes nine seconds is given up when the token is cancelled, unless it is waited for.
A second later no work is started. -/
theorem conducts_of_sample :
    let g : Guard := { deadline := 5000, cancelAt := some 3000 }
    let result : Except CloudError String := .ok "inst-1"
    ¬ g.IsCancelledBefore 1000 ∧
      g.attempt .interruptible 1000 9000 result = (.abandoned .cancelled, 3000) ∧
      g.attempt .untilFinished 1000 9000 result = (.finished result, 10000) ∧
      g.IsCancelledBefore 4000 ∧
      g.attempt .interruptible 4000 0 result = (.refused .cancelled, 4000) := by
  intro g result
  have active : ¬ g.IsCancelledBefore 1000 := by
    simp [IsCancelledBefore, g]
  have cancelled : g.IsCancelledBefore 4000 := .inr ⟨3000, rfl, by decide⟩
  have conducted := conducts g 1000 9000 result
  refine ⟨active, ?_, conducted.waited active (by decide), cancelled, ?_⟩
  · obtain ⟨contends, first⟩ := conducted.first active
    have early := first _ (.cancellation rfl)
    generalize g.attempt .interruptible 1000 9000 result = ended at contends early ⊢
    cases contends with
    | work => simp at early
    | deadline => simp [g] at early
    | cancellation due =>
        cases due
        rfl
  · exact (conducts g 4000 0 result).cancelled cancelled .interruptible

end Attempts

end MachineProvider.Guard
