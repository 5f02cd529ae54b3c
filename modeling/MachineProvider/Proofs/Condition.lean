import MachineProvider.Condition
import Mathlib.Data.List.Nodup
import Mathlib.Data.String.Basic

/-!
# Lists of conditions

Setting a condition replaces the first one of its type and leaves the others as they were, whatever
the order of the list and however often a type occurs in it (`get?_set`, `get?_set_of_ne`). Setting
it again changes nothing, whatever the clock shows (`set_set`). A list in which each type occurs once
and `Ready` comes first and the others follow by type stays such a list (`InOrder.set`).
-/

namespace MachineProvider.Condition

section Order

theorem comesBefore_trans (a b c : Condition) (hab : comesBefore a b = true)
    (hbc : comesBefore b c = true) : comesBefore a c = true := by
  unfold comesBefore at *
  by_cases ha : a.type = ready
  · rw [if_pos ha]
  by_cases hb : b.type = ready
  · rw [if_neg ha, if_pos hb] at hab
    cases hab
  by_cases hc : c.type = ready
  · rw [if_neg hb, if_pos hc] at hbc
    cases hbc
  simp only [ha, hb, hc, if_false, decide_eq_true_eq] at *
  exact hab.trans hbc

theorem comesBefore_total (a b : Condition) : (comesBefore a b || comesBefore b a) = true := by
  unfold comesBefore
  by_cases ha : a.type = ready
  · simp [ha]
  by_cases hb : b.type = ready
  · simp [hb]
  simpa only [ha, hb, if_false, Bool.or_eq_true, decide_eq_true_eq] using le_total a.type b.type

/-- Conditions of one type are not kept in an order of their own. -/
theorem comesBefore_of_type_eq {a b : Condition} (h : a.type = b.type) :
    comesBefore a b = true := by
  unfold comesBefore
  split
  · rfl
  next ha => simp [← h, ha]

/-- Putting conditions in order leaves those of one type as they were. -/
theorem filter_type_mergeSort (conditions : List Condition) (type : String) :
    (conditions.mergeSort comesBefore).filter (·.type = type) =
      conditions.filter (·.type = type) := by
  have alike : (conditions.filter (·.type = type)).Pairwise fun a b => comesBefore a b = true := by
    refine List.pairwise_of_forall_mem_list ?_
    intro a ha b hb
    have hat : a.type = type := by simpa using (List.mem_filter.mp ha).2
    have hbt : b.type = type := by simpa using (List.mem_filter.mp hb).2
    exact comesBefore_of_type_eq (hat.trans hbt.symm)
  have stable := List.sublist_mergeSort comesBefore_trans comesBefore_total alike
    List.filter_sublist
  have sub := stable.filter (·.type = type)
  rw [List.filter_filter] at sub
  simp only [Bool.and_self] at sub
  refine (sub.eq_of_length ?_).symm
  exact ((List.mergeSort_perm conditions comesBefore).filter _).length_eq.symm

/-- Putting conditions in order changes none of those that are looked up. -/
theorem get?_mergeSort (conditions : List Condition) (type : String) :
    get? (conditions.mergeSort comesBefore) type = get? conditions type := by
  unfold get?
  rw [← List.head?_filter, ← List.head?_filter, filter_type_mergeSort]

end Order

section Set

variable (c : Condition) (now : Timestamp) (conditions : List Condition)

/-- The time of the last transition of a condition that follows on another one, if there is one. -/
def transition (old : Option Condition) : Option String :=
  match old with
  | some old => if old.status = c.status then old.lastTransitionTime else some now.toSecondsText
  | none => some now.toSecondsText

theorem get?_replaceOrAppend :
    get? (replaceOrAppend c now conditions) c.type =
      some { c with lastTransitionTime := transition c now (get? conditions c.type) } := by
  induction conditions with
  | nil => simp [replaceOrAppend, get?, transition]
  | cons old rest ih =>
      unfold replaceOrAppend
      split
      next same => simp [get?, same, transition]
      next other => simpa [get?, other] using ih

/-- Conditions of another type stay as they were, and in their order. -/
theorem filter_replaceOrAppend_of_ne {type : String} (h : type ≠ c.type) :
    (replaceOrAppend c now conditions).filter (·.type = type) =
      conditions.filter (·.type = type) := by
  induction conditions with
  | nil => simp [replaceOrAppend, h.symm]
  | cons old rest ih =>
      unfold replaceOrAppend
      split
      next same =>
        have other : old.type ≠ type := fun eq => h (eq.symm.trans same)
        simp [other, h.symm]
      next other => simp only [List.filter_cons, ih]

theorem get?_replaceOrAppend_of_ne {type : String} (h : type ≠ c.type) :
    get? (replaceOrAppend c now conditions) type = get? conditions type := by
  unfold get?
  rw [← List.head?_filter, ← List.head?_filter, filter_replaceOrAppend_of_ne c now conditions h]

/-- A condition that was set is found. -/
theorem get?_set : get? (set conditions c now) c.type =
    some { c with lastTransitionTime := transition c now (get? conditions c.type) } := by
  rw [set, get?_mergeSort, get?_replaceOrAppend]

/-- Setting a condition leaves those of other types as they were. -/
theorem get?_set_of_ne {type : String} (h : type ≠ c.type) :
    get? (set conditions c now) type = get? conditions type := by
  rw [set, get?_mergeSort, get?_replaceOrAppend_of_ne _ _ _ h]

/-- Setting a condition leaves all those of another type as they were, and in their order. -/
theorem filter_set_of_ne {type : String} (h : type ≠ c.type) :
    (set conditions c now).filter (·.type = type) = conditions.filter (·.type = type) := by
  rw [set, filter_type_mergeSort, filter_replaceOrAppend_of_ne _ _ _ h]

/-- A condition that is found as it would be put there is left as it is. -/
theorem replaceOrAppend_of_get? {time : Option String}
    (found : get? conditions c.type = some { c with lastTransitionTime := time }) :
    replaceOrAppend c now conditions = conditions := by
  induction conditions with
  | nil => cases found
  | cons old rest ih =>
      unfold replaceOrAppend
      by_cases same : old.type = c.type
      · have eq : old = { c with lastTransitionTime := time } := by
          simpa [get?, same] using found
        rw [if_pos same, eq, if_pos rfl]
      · rw [if_neg same, ih (by simpa [get?, same] using found)]

/-- Setting a condition again changes nothing, not even the time of its last transition. -/
theorem set_set (later : Timestamp) :
    set (set conditions c now) c later = set conditions c now := by
  have sorted : (set conditions c now).Pairwise fun a b => comesBefore a b = true :=
    List.pairwise_mergeSort comesBefore_trans comesBefore_total _
  calc set (set conditions c now) c later
      = (set conditions c now).mergeSort comesBefore := by
        rw [set, replaceOrAppend_of_get? c later _ (get?_set c now conditions)]
    _ = set conditions c now := List.mergeSort_of_pairwise sorted

/-- The types after a condition was put in its place. -/
theorem types_replaceOrAppend :
    (replaceOrAppend c now conditions).map (·.type) =
      if c.type ∈ conditions.map (·.type) then conditions.map (·.type)
      else conditions.map (·.type) ++ [c.type] := by
  induction conditions with
  | nil => rfl
  | cons old rest ih =>
      unfold replaceOrAppend
      by_cases same : old.type = c.type
      · simp [same]
      · have other : c.type ≠ old.type := fun eq => same eq.symm
        rw [if_neg same, List.map_cons, ih]
        simp only [List.map_cons, List.mem_cons, other, false_or]
        split <;> rfl

/-- Setting a condition repeats no type. -/
theorem nodup_set (h : (conditions.map (·.type)).Nodup) :
    ((set conditions c now).map (·.type)).Nodup := by
  refine (((List.mergeSort_perm _ comesBefore).map _).nodup_iff).mpr ?_
  rw [types_replaceOrAppend]
  split
  · exact h
  next fresh => exact List.nodup_append.mpr ⟨h, List.nodup_singleton _, by
      intro a ha b hb eq
      rw [eq, List.mem_singleton.mp hb] at ha
      exact fresh ha⟩

end Set

/-- Whether each type occurs once in a list of conditions, `Ready` first and the others in the order
of their names. -/
def InOrder (conditions : List Condition) : Prop :=
  conditions.Pairwise fun a b => b.type ≠ ready ∧ (a.type = ready ∨ a.type < b.type)

theorem inOrder_nil : InOrder [] := List.Pairwise.nil

/-- No type occurs twice. -/
theorem InOrder.nodup {conditions : List Condition} (h : InOrder conditions) :
    (conditions.map (·.type)).Nodup := by
  refine List.pairwise_map.mpr (h.imp ?_)
  rintro a b ⟨unready, first | less⟩
  · rw [first]
    exact unready.symm
  · exact less.ne

theorem inOrder_of_comesBefore {conditions : List Condition}
    (sorted : conditions.Pairwise fun a b => comesBefore a b = true)
    (distinct : (conditions.map (·.type)).Nodup) : InOrder conditions := by
  refine (sorted.and (List.pairwise_map.mp distinct)).imp ?_
  rintro a b ⟨before, differ⟩
  unfold comesBefore at before
  by_cases ha : a.type = ready
  · exact ⟨fun hb => differ (ha.trans hb.symm), .inl ha⟩
  by_cases hb : b.type = ready
  · rw [if_neg ha, if_pos hb] at before
    cases before
  · rw [if_neg ha, if_neg hb, decide_eq_true_eq] at before
    exact ⟨hb, .inr (lt_of_le_of_ne before differ)⟩

/-- Setting a condition keeps the list in order. -/
theorem InOrder.set {conditions : List Condition} (h : InOrder conditions) (c : Condition)
    (now : Timestamp) : InOrder (set conditions c now) :=
  inOrder_of_comesBefore (List.pairwise_mergeSort comesBefore_trans comesBefore_total _)
    (nodup_set c now conditions h.nodup)

section Mark

variable (conditions : List Condition) (type reason message : String) (severity : Severity)
  (now : Timestamp)

/-- What is found of a condition that was set to false. -/
theorem get?_markFalse : ∃ time,
    get? (markFalse conditions type reason severity message now) type =
      some
        { type, status := "False", severity, lastTransitionTime := time, reason := some reason
          message := if message.isEmpty then none else some message } :=
  ⟨_, get?_set
    { type, status := "False", severity, reason := some reason
      message := if message.isEmpty then none else some message } now conditions⟩

/-- A condition that was set to true holds. -/
@[simp] theorem holds_markTrue : holds (markTrue conditions type now) type = true := by
  have found := get?_set { type, status := "True" } now conditions
  simp only at found
  simp only [holds, markTrue, found]
  rfl

/-- A condition that was set to false does not hold. -/
@[simp] theorem holds_markFalse :
    holds (markFalse conditions type reason severity message now) type = false := by
  obtain ⟨time, found⟩ := get?_markFalse conditions type reason message severity now
  simp only [holds, found]
  rfl

/-- Setting a condition to true says nothing about those of other types. -/
theorem holds_markTrue_of_ne {other : String} (h : other ≠ type) :
    holds (markTrue conditions type now) other = holds conditions other := by
  unfold holds markTrue
  rw [get?_set_of_ne _ now conditions h]

/-- Setting a condition to false says nothing about those of other types. -/
theorem holds_markFalse_of_ne {other : String} (h : other ≠ type) :
    holds (markFalse conditions type reason severity message now) other =
      holds conditions other := by
  unfold holds markFalse
  rw [get?_set_of_ne _ now conditions h]

/-- Setting a condition to true again changes nothing. -/
theorem markTrue_markTrue (later : Timestamp) :
    markTrue (markTrue conditions type now) type later = markTrue conditions type now :=
  set_set _ _ _ _

/-- Setting a condition to false again for the same reason changes nothing. -/
theorem markFalse_markFalse (later : Timestamp) :
    markFalse (markFalse conditions type reason severity message now) type reason severity message
      later = markFalse conditions type reason severity message now :=
  set_set _ _ _ _

/-- Conditions in order stay so when one of them is set to true. -/
theorem InOrder.markTrue {conditions : List Condition} (h : InOrder conditions) :
    InOrder (markTrue conditions type now) :=
  h.set _ _

/-- Conditions in order stay so when one of them is set to false. -/
theorem InOrder.markFalse {conditions : List Condition} (h : InOrder conditions) :
    InOrder (markFalse conditions type reason severity message now) :=
  h.set _ _

end Mark

end MachineProvider.Condition
