import MachineProvider.Guard

/-!
# When a guarded call starts and finishes

A call is looked at again at its end, at its deadline and at its cancellation, in the order of time,
and each of these looks ends it, so that the earliest decides (`exists_first_look`). At a look a
result counts before the deadline: a call whose result is waited for ends when its work does. Whether
the work is started at all is decided at the start of the call (`Guard.Admits`).
-/

namespace MachineProvider

namespace Moment

theorem notAfter_trans (a b c : Moment) (hab : a.notAfter b = true) (hbc : b.notAfter c = true) :
    a.notAfter c = true := by
  simp only [notAfter, Bool.or_eq_true, Bool.and_eq_true, decide_eq_true_eq,
    Bool.not_eq_true'] at *
  rcases hab with hab | ⟨hab, hlate⟩
  · rcases hbc with hbc | ⟨hbc, -⟩
    · left
      omega
    · left
      omega
  · rcases hbc with hbc | ⟨hbc, hlate'⟩
    · left
      omega
    · right
      refine ⟨hab.trans hbc, ?_⟩
      rcases hlate with early | late
      · exact .inl early
      · rcases hlate' with early' | late'
        · rw [late] at early'
          cases early'
        · exact .inr late'

theorem notAfter_total (a b : Moment) : (a.notAfter b || b.notAfter a) = true := by
  simp only [notAfter, Bool.or_eq_true, Bool.and_eq_true, decide_eq_true_eq, Bool.not_eq_true']
  rcases Nat.lt_trichotomy a.instant b.instant with h | h | h
  · exact .inl (.inl h)
  · cases hl : a.late with
    | false => exact .inl (.inr ⟨h, .inl rfl⟩)
    | true => exact .inr (.inr ⟨h.symm, .inr rfl⟩)
  · exact .inr (.inl h)

theorem instant_le_of_notAfter {a b : Moment} (h : a.notAfter b = true) :
    a.instant ≤ b.instant := by
  simp only [notAfter, Bool.or_eq_true, Bool.and_eq_true, decide_eq_true_eq] at h
  omega

/-- What is found first in a list of moments that are in order is found at the earliest of all
moments at which there is something to find. -/
theorem exists_first {β : Type} {f : Moment → Option β} {moments : List Moment}
    (sorted : moments.Pairwise fun a b => a.notAfter b = true) {m : Moment} (member : m ∈ moments)
    (finds : (f m).isSome = true) :
    ∃ first ∈ moments, (f first).isSome = true ∧ f first = moments.findSome? f ∧
      ∀ other ∈ moments, (f other).isSome = true → first.instant ≤ other.instant := by
  induction moments with
  | nil => cases member
  | cons head rest ih =>
      obtain ⟨ordered, sorted⟩ := List.pairwise_cons.mp sorted
      cases found : f head with
      | some b =>
          refine ⟨head, List.mem_cons_self, by rw [found]; rfl, by simp [found], ?_⟩
          intro other within _
          rcases List.mem_cons.mp within with rfl | later
          · exact Nat.le_refl _
          · exact instant_le_of_notAfter (ordered other later)
      | none =>
          have skips {other : Moment} (within : other ∈ head :: rest)
              (finds : (f other).isSome = true) : other ∈ rest := by
            rcases List.mem_cons.mp within with rfl | later
            · rw [found] at finds
              cases finds
            · exact later
          obtain ⟨first, within, finds, same, earliest⟩ := ih sorted (skips member finds)
          refine ⟨first, List.mem_cons_of_mem _ within, finds, by simp [found, same], ?_⟩
          intro other within' finds'
          exact earliest other (skips within' finds') finds'

end Moment

namespace Guard

variable {g : Guard} {start duration ended : Nat}

/-- A look at which the work is found to have ended comes after its end. -/
theorem look_finished {workEnd : Nat} {m : Moment}
    (h : g.look workEnd m = some (.finished ended)) : ended = m.instant ∧ workEnd ≤ ended := by
  unfold look at h
  split at h
  · cases h
  split at h
  next done =>
      cases h
      exact ⟨rfl, done⟩
  split at h
  · cases h
  · cases h

/-- The moments at which a call is looked at again. -/
theorem mem_wakeUps {workEnd : Nat} {m : Moment} :
    m ∈ g.wakeUps start workEnd ↔
      m = { instant := workEnd } ∨ m = { instant := max start g.deadline } ∨
        ∃ c, g.cancelAt = some c ∧ start ≤ c ∧ m = { instant := c, late := true } := by
  unfold wakeUps
  cases g.cancelAt with
  | none => simp
  | some c => by_cases due : start ≤ c <;> simp [due]

/-- Each reason to look at a call again ends it. -/
theorem isSome_look_of_mem {workEnd : Nat} {m : Moment} (h : m ∈ g.wakeUps start workEnd) :
    (g.look workEnd m).isSome = true := by
  unfold look
  split
  · rfl
  next active =>
    obtain rfl | rfl | ⟨c, due, -, rfl⟩ := mem_wakeUps.mp h
    · simp
    · split
      · rfl
      · rw [if_pos (Nat.le_max_right ..)]
        rfl
    · simp [isCancelled, due] at active

/-- The moments at which a call is looked at are in order. -/
theorem pairwise_moments (g : Guard) (start duration : Nat) :
    ({ instant := start } :: g.wakeUps start (start + duration)).Pairwise
      fun a b => a.notAfter b = true := by
  refine List.pairwise_cons.mpr ⟨?_, ?_⟩
  · intro m hm
    have later : start ≤ m.instant := by
      obtain rfl | rfl | ⟨c, -, due, rfl⟩ := mem_wakeUps.mp hm
      · exact Nat.le_add_right _ _
      · exact Nat.le_max_left _ _
      · exact due
    simp only [Moment.notAfter, Bool.or_eq_true, Bool.and_eq_true, decide_eq_true_eq,
      Bool.not_false, Bool.true_or, and_true]
    omega
  · exact List.pairwise_mergeSort Moment.notAfter_trans Moment.notAfter_total _

/-- A call that starts ends at its first look that finds a reason. -/
theorem exists_first_look (duration : Nat) (active : g.isCancelled { instant := start } = false) :
    ∃ m, g.look (start + duration) m = some (g.callInterruptibly start duration) ∧
      start ≤ m.instant ∧ ∀ m' ∈ g.wakeUps start (start + duration), m.instant ≤ m'.instant := by
  have sorted := g.pairwise_moments start duration
  have atEnd : ({ instant := start + duration } : Moment) ∈ g.wakeUps start (start + duration) :=
    mem_wakeUps.mpr (.inl rfl)
  obtain ⟨m, member, ended, looked, first⟩ := Moment.exists_first sorted
    (List.mem_cons_of_mem _ atEnd) (isSome_look_of_mem atEnd)
  obtain ⟨e, found⟩ := Option.isSome_iff_exists.mp ended
  have result : g.callInterruptibly start duration = e := by
    simp [callInterruptibly, active, ← looked, found]
  refine ⟨m, by rw [result, found], ?_, ?_⟩
  · rcases List.mem_cons.mp member with rfl | later
    · exact Nat.le_refl _
    · exact Moment.instant_le_of_notAfter ((List.pairwise_cons.mp sorted).1 m later)
  · intro m' later
    exact first m' (List.mem_cons_of_mem _ later) (isSome_look_of_mem later)

/-- A call whose result is waited for ends when its work does. -/
theorem callInterruptibly_finished (h : g.callInterruptibly start duration = .finished ended) :
    ended = start + duration := by
  cases cancelled : g.isCancelled { instant := start } with
  | true => simp [callInterruptibly, cancelled] at h
  | false =>
      obtain ⟨m, looked, -, first⟩ := exists_first_look duration cancelled
      rw [h] at looked
      obtain ⟨rfl, late⟩ := look_finished looked
      have early := first _ (mem_wakeUps.mpr (.inl rfl))
      exact Nat.le_antisymm early late

/-- A call that finishes does so when its work ends, whether or not it may be given up. -/
theorem call_finished {patience : Patience}
    (h : g.call patience start duration = .finished ended) : ended = start + duration := by
  cases patience with
  | interruptible => exact callInterruptibly_finished h
  | untilFinished =>
      change g.callToCompletion start duration = .finished ended at h
      unfold callToCompletion at h
      split at h
      · cases h
      split at h
      · cases h
      · cases h
        rfl

/-- Whether the work of a call is started: the token is not cancelled, and a call that is waited for
starts before the deadline. -/
def Admits (g : Guard) (patience : Patience) (start : Nat) : Prop :=
  g.isCancelled { instant := start } = false ∧ (patience = .untilFinished → start < g.deadline)

instance (g : Guard) (patience : Patience) (start : Nat) : Decidable (g.Admits patience start) :=
  inferInstanceAs (Decidable (_ ∧ _))

/-- A look at a call whose work has started does not refuse it. -/
theorem wasStarted_of_look {workEnd : Nat} {m : Moment} {e : CallEnd}
    (h : g.look workEnd m = some e) : e.wasStarted = true := by
  unfold look at h
  split at h
  · cases h
    rfl
  split at h
  · cases h
    rfl
  split at h
  · cases h
    rfl
  · cases h

theorem wasStarted_call (patience : Patience) :
    (g.call patience start duration).wasStarted = true ↔ g.Admits patience start := by
  cases cancelled : g.isCancelled { instant := start } with
  | true => cases patience <;> simp [call, callInterruptibly, callToCompletion, cancelled,
      CallEnd.wasStarted, Admits]
  | false =>
      cases patience with
      | interruptible =>
          obtain ⟨m, looked, -, -⟩ := exists_first_look duration cancelled
          exact iff_of_true (wasStarted_of_look looked) ⟨cancelled, by simp⟩
      | untilFinished =>
          by_cases late : g.deadline ≤ start <;>
            simp [call, callToCompletion, cancelled, late, CallEnd.wasStarted, Admits]
          omega

end Guard

end MachineProvider
