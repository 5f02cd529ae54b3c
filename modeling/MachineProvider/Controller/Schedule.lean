import MachineProvider.Controller.Watch

/-!
# Schedules

A schedule holds the objects that the controllers are to look at and when. No object is in it twice:
of two instants for one object the earlier one counts (`due?_add`).
-/

namespace MachineProvider

/-- Objects and the instants at which they are to be looked at. -/
structure Schedule where
  entries : List (Target × Nat) := []
  deriving Inhabited

namespace Schedule

/-- The longest time that an object can be put off: half a year of six months of thirty days. -/
def longestDelay : Nat := 180 * 86400 * 1000

/-- When an object is to be looked at. -/
def due? (s : Schedule) (target : Target) : Option Nat :=
  s.entries.lookup target

/-- Takes an object out of the schedule. -/
def remove (s : Schedule) (target : Target) : Schedule :=
  ⟨s.entries.filter (·.1 != target)⟩

/-- Puts an object into the schedule, unless it is to be looked at earlier anyway. -/
def add (s : Schedule) (target : Target) (instant : Nat) : Schedule :=
  match s.due? target with
  | none => ⟨s.entries ++ [(target, instant)]⟩
  | some earlier =>
    if earlier < instant then s else ⟨(s.remove target).entries ++ [(target, instant)]⟩

/-- Puts an object off. -/
def addAfter (s : Schedule) (target : Target) (now : Nat) (delay : Delay) : Schedule :=
  s.add target (now + min delay.millis longestDelay)

/-- The entry that is due first. -/
def first? (s : Schedule) : Option (Target × Nat) :=
  s.entries.foldl (fun best entry =>
    match best with
    | none => some entry
    | some b => if entry.2 < b.2 then some entry else some b) none

theorem lookup_append (entries : List (Target × Nat)) (target : Target) (instant : Nat)
    (h : entries.lookup target = none) :
    (entries ++ [(target, instant)]).lookup target = some instant := by
  induction entries with
  | nil => simp
  | cons head rest ih =>
    obtain ⟨t, i⟩ := head
    by_cases ht : target == t
    · simp [List.lookup_cons, ht] at h
    · simp only [List.lookup_cons, ht] at h
      simp only [List.cons_append, List.lookup_cons, ht]
      exact ih h

theorem lookup_filter_ne (entries : List (Target × Nat)) (target : Target) :
    (entries.filter (·.1 != target)).lookup target = none := by
  induction entries with
  | nil => rfl
  | cons head rest ih =>
    obtain ⟨t, i⟩ := head
    by_cases ht : t = target
    · simp [ht, ih]
    · have : (target == t) = false := by simpa using fun h => ht h.symm
      simp [ht, List.lookup_cons, this, ih]

/-- Adding an object leaves it due at the earlier of two instants. -/
theorem due?_add (s : Schedule) (target : Target) (instant : Nat) :
    (s.add target instant).due? target =
      some (match s.due? target with
        | none => instant
        | some earlier => min earlier instant) := by
  unfold add
  split
  · next h => simp [due?, lookup_append _ _ _ h]
  · next earlier h =>
    split
    · next hlt => simp [h, Nat.min_eq_left (Nat.le_of_lt hlt)]
    · next hge =>
      simp only [due?, remove, Nat.min_eq_right (Nat.le_of_not_lt hge)]
      exact lookup_append _ _ _ (lookup_filter_ne _ _)

end Schedule

end MachineProvider
