import MachineProvider.Proofs.Condition

/-!
# Marks

The conditions of an object are only ever marked: as true, or as false with a reason, a severity and
a message. Stored lists may be in any order and may repeat types, so what a mark does is said for
every list (`Mark.updates`). A list that is in order is determined by what it says on each type
(`eq_of_filter_type`), and a mark concerns one type. Hence repeated marks change nothing, and marks
of different types may be made in either order (`Mark.apply_apply`).
-/

namespace MachineProvider.Condition

section Order

variable {a b : Condition} {conditions others : List Condition}

/-- Whether one condition may stand before another. -/
def MayPrecede (a b : Condition) : Prop :=
  a.type = ready ∨ b.type ≠ ready ∧ a.type ≤ b.type

theorem comesBefore_iff : comesBefore a b = true ↔ a.MayPrecede b := by
  unfold comesBefore MayPrecede
  by_cases ha : a.type = ready
  · simp [ha]
  · by_cases hb : b.type = ready <;> simp [ha, hb]

/-- Two conditions that may stand in either order have the same type. -/
theorem MayPrecede.type_eq (h : a.MayPrecede b) (h' : b.MayPrecede a) : a.type = b.type := by
  rcases h with ha | ⟨hb, le⟩
  · rcases h' with hb | ⟨ha', -⟩
    · exact ha.trans hb.symm
    · exact absurd ha ha'
  · rcases h' with hb' | ⟨-, le'⟩
    · exact absurd hb' hb
    · exact le_antisymm le le'

/-- Whether `Ready` comes first and the others follow in the order of their types. Conditions of one
type may stand in any order. -/
def IsSorted (conditions : List Condition) : Prop :=
  conditions.Pairwise MayPrecede

/-- The head of a sorted list may stand before every condition of the list. -/
theorem IsSorted.head_mayPrecede (h : IsSorted (a :: conditions)) (member : b ∈ a :: conditions) :
    a.MayPrecede b := by
  rcases List.mem_cons.mp member with rfl | later
  · exact comesBefore_iff.mp (comesBefore_of_type_eq rfl)
  · exact (List.pairwise_cons.mp h).1 b later

/-- A sorted list is determined by its conditions of each type and their order. -/
theorem eq_of_filter_type (h : IsSorted conditions) (h' : IsSorted others)
    (same : ∀ type, conditions.filter (·.type = type) = others.filter (·.type = type)) :
    conditions = others := by
  induction conditions generalizing others with
  | nil =>
      cases others with
      | nil => rfl
      | cons b rest => simpa using same b.type
  | cons a rest ih =>
      cases others with
      | nil => simpa using same a.type
      | cons b rest' =>
          -- Each head occurs in the other list, so neither may stand before the other.
          have inOthers : a ∈ b :: rest' := by
            have here : a ∈ (a :: rest).filter (·.type = a.type) := by simp
            rw [same] at here
            exact List.mem_of_mem_filter here
          have inConditions : b ∈ a :: rest := by
            have here : b ∈ (b :: rest').filter (·.type = b.type) := by simp
            rw [← same] at here
            exact List.mem_of_mem_filter here
          have type : b.type = a.type :=
            (h'.head_mayPrecede inOthers).type_eq (h.head_mayPrecede inConditions)
          obtain ⟨rfl, -⟩ : a = b ∧ _ := by simpa [type] using same a.type
          have tails : ∀ type, rest.filter (·.type = type) = rest'.filter (·.type = type) := by
            intro type
            have both := same type
            by_cases here : a.type = type <;> simpa [here] using both
          rw [ih (List.pairwise_cons.mp h).2 (List.pairwise_cons.mp h').2 tails]

end Order

section Set

variable (c : Condition) (now : Timestamp) (conditions : List Condition)

/-- A condition as it stands in a list after it was set there. -/
def placed : Condition :=
  { c with lastTransitionTime := transition c now (get? conditions c.type) }

/-- The new condition takes the place of the first one of its type, or a place of its own. -/
theorem replaceOrAppend_perm :
    (replaceOrAppend c now conditions).Perm
      (placed c now conditions :: conditions.eraseP (·.type = c.type)) := by
  induction conditions with
  | nil => exact .refl _
  | cons old rest ih =>
      unfold replaceOrAppend
      by_cases same : old.type = c.type
      · simp [same, placed, transition, get?]
      · have kept : placed c now (old :: rest) = placed c now rest := by
          simp [placed, get?, same]
        rw [if_neg same, kept, List.eraseP_cons_of_neg (by simpa using same)]
        exact (ih.cons old).trans (.swap ..)

/-- The new condition is the first one of its type, and the others of its type follow as before. -/
theorem filter_replaceOrAppend :
    (replaceOrAppend c now conditions).filter (·.type = c.type) =
      placed c now conditions :: (conditions.filter (·.type = c.type)).tail := by
  induction conditions with
  | nil => simp [replaceOrAppend, placed, transition, get?]
  | cons old rest ih =>
      unfold replaceOrAppend
      by_cases same : old.type = c.type
      · simp [same, placed, transition, get?]
      · have kept : placed c now (old :: rest) = placed c now rest := by
          simp [placed, get?, same]
        simp [same, ih, kept]

theorem filter_set :
    (set conditions c now).filter (·.type = c.type) =
      placed c now conditions :: (conditions.filter (·.type = c.type)).tail := by
  rw [set, filter_type_mergeSort, filter_replaceOrAppend]

theorem set_perm :
    (set conditions c now).Perm (placed c now conditions :: conditions.eraseP (·.type = c.type)) :=
  (List.mergeSort_perm _ _).trans (replaceOrAppend_perm c now conditions)

/-- The list grows by one condition when its type is new, and otherwise keeps its length. -/
theorem length_set : (set conditions c now).length =
    if c.type ∈ conditions.map (·.type) then conditions.length else conditions.length + 1 := by
  have types := congrArg List.length (types_replaceOrAppend c now conditions)
  rw [List.length_map] at types
  rw [set, List.length_mergeSort, types]
  split <;> simp

theorem isSorted_set : IsSorted (set conditions c now) :=
  (List.pairwise_mergeSort comesBefore_trans comesBefore_total _).imp comesBefore_iff.mp

/-- What a list says on the type of a condition does not depend on whether a condition of another
type was set before or after it. -/
theorem filter_set_comm {c d : Condition} (other : c.type ≠ d.type) (later : Timestamp) :
    (set (set conditions c now) d later).filter (·.type = c.type) =
      (set (set conditions d later) c now).filter (·.type = c.type) := by
  have unmoved : placed c now (set conditions d later) = placed c now conditions := by
    simp only [placed, get?_set_of_ne d later conditions other]
  calc (set (set conditions c now) d later).filter (·.type = c.type)
      = placed c now conditions :: (conditions.filter (·.type = c.type)).tail := by
        rw [filter_set_of_ne d later _ other, filter_set]
    _ = (set (set conditions d later) c now).filter (·.type = c.type) := by
        rw [filter_set, unmoved, filter_set_of_ne d later conditions other]

/-- Conditions of different types may be set in either order. -/
theorem set_comm {c d : Condition} (other : c.type ≠ d.type) (later : Timestamp) :
    set (set conditions c now) d later = set (set conditions d later) c now := by
  refine eq_of_filter_type (isSorted_set ..) (isSorted_set ..) fun type => ?_
  by_cases hc : type = c.type
  · rw [hc]
    exact filter_set_comm now conditions other later
  by_cases hd : type = d.type
  · rw [hd]
    exact (filter_set_comm later conditions other.symm now).symm
  · rw [filter_set_of_ne d later _ hd, filter_set_of_ne c now _ hc, filter_set_of_ne c now _ hc,
      filter_set_of_ne d later _ hd]

/-- Conditions of different types may be set to true in either order. -/
theorem markTrue_comm {type other : String} (differ : type ≠ other) (later : Timestamp) :
    markTrue (markTrue conditions type now) other later =
      markTrue (markTrue conditions other later) type now :=
  set_comm now conditions differ later

/-- What a list of conditions becomes when one of them is set. -/
structure IsUpdate (c : Condition) (now : Timestamp) (conditions result : List Condition) : Prop
  where
  found : get? result c.type = some (placed c now conditions)
  /-- Every condition but the one that was replaced is still there. -/
  kept : result.Perm (placed c now conditions :: conditions.eraseP (·.type = c.type))
  length : result.length =
    if c.type ∈ conditions.map (·.type) then conditions.length else conditions.length + 1
  sorted : IsSorted result
  /-- The conditions of the same type keep their order, the new one in the place of the first. -/
  own : result.filter (·.type = c.type) =
    placed c now conditions :: (conditions.filter (·.type = c.type)).tail
  others : ∀ type, type ≠ c.type →
    result.filter (·.type = type) = conditions.filter (·.type = type)
  distinct : (conditions.map (·.type)).Nodup → (result.map (·.type)).Nodup

end Set

/-- A new observation on a condition. -/
inductive Mark where
  | holds (type : String)
  | fails (type reason : String) (severity : Severity) (message : String)
  deriving DecidableEq, Repr

namespace Mark

/-- The condition that a mark sets, before the time of its last transition is known. -/
def condition : Mark → Condition
  | holds type => { type, status := "True", severity := .none, reason := none, message := none }
  | fails type reason severity message =>
    { type, status := "False", severity, reason := some reason
      message := if message = "" then none else some message }

/-- Marks a condition in a list. -/
def apply (conditions : List Condition) (now : Timestamp) : Mark → List Condition
  | holds type => markTrue conditions type now
  | fails type reason severity message => markFalse conditions type reason severity message now

variable (m m' : Mark) (conditions : List Condition) (now later : Timestamp)

theorem apply_eq_set : m.apply conditions now = set conditions m.condition now := by
  cases m with
  | holds type => rfl
  | fails type reason severity message =>
      simp only [apply, markFalse, condition, String.isEmpty_iff]

/-- Whatever a list of conditions is, a mark puts its condition there, leaves all others as they
were, and puts the list in order. -/
theorem updates : IsUpdate m.condition now conditions (m.apply conditions now) := by
  rw [apply_eq_set]
  exact
    { found := get?_set _ now conditions
      kept := set_perm _ now conditions
      length := length_set _ now conditions
      sorted := isSorted_set _ now conditions
      own := filter_set _ now conditions
      others := fun _ other => filter_set_of_ne _ now conditions other
      distinct := nodup_set _ now conditions }

/-- A mark that is made again changes nothing, whatever the clock shows, and marks of different types
may be made in either order. -/
theorem apply_apply :
    m.apply (m.apply conditions now) later = m.apply conditions now ∧
      (m.condition.type ≠ m'.condition.type →
        m'.apply (m.apply conditions now) later = m.apply (m'.apply conditions later) now) := by
  simp only [apply_eq_set]
  constructor
  · exact set_set _ now conditions later
  · intro other
    exact set_comm now conditions other later

/-- Conditions out of order, one type of which occurs twice, once without a time. -/
def sampleConditions : List Condition :=
  [{ type := "NetworkInfrastructureReady", status := "True", lastTransitionTime := some "long ago" },
    { type := "Ready", status := "Unknown" },
    { type := "NetworkInfrastructureReady", status := "False" }]

/-- The cluster is ready but its network is not, and it does not matter which of the two is said
first or whether the first is said again. -/
theorem apply_apply_of_sample :
    let now : Timestamp := { seconds := 0, nanos := 0 }
    let later : Timestamp := { seconds := 1, nanos := 0 }
    let summary := holds ready
    let network := fails networkInfrastructureReady clientFailed .error "no credentials"
    summary.condition.type ≠ network.condition.type ∧
      summary.apply (summary.apply sampleConditions now) later =
        summary.apply sampleConditions now ∧
      network.apply (summary.apply sampleConditions now) later =
        summary.apply (network.apply sampleConditions later) now := by
  intro now later summary network
  have differ : summary.condition.type ≠ network.condition.type := by decide
  have ⟨again, either⟩ := apply_apply summary network sampleConditions now later
  exact ⟨differ, again, either differ⟩

end Mark

end MachineProvider.Condition
