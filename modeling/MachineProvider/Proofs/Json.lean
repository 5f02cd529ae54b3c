import MachineProvider.Json.Decode
import MachineProvider.Proofs.Dictionary
import Mathlib.Data.Int.Basic
import Mathlib.Data.List.Nodup

/-!
# Reading records that were written

A record is written with the members that have a value, and each of its fields reads its own member
again (`record?_ofMembers`). What a field gives depends only on that member: a field that is left
out because it has no value gives its default, and every other one gives what its reader makes of
the written value. So a record is read back field by field (`read_record`, `read_field`), and comes
back as it was when the reader of each field undoes its writer (`Undoes`).
-/

namespace MachineProvider

namespace Json

/-- The members of a record that have a value. -/
def present (members : List (String × Option Json)) : List (String × Json) :=
  members.filterMap fun (name, value) => value.map (name, ·)

/-- The fields of a record that was written with the given members. -/
def Fields.ofMembers (members : List (String × Option Json)) : Fields :=
  fun name => (members.lookup name).join

section Members

variable {members : List (String × Option Json)}

theorem sublist_present (members : List (String × Option Json)) :
    ((present members).map (·.1)).Sublist (members.map (·.1)) := by
  induction members with
  | nil => exact List.Sublist.slnil
  | cons head rest ih =>
      obtain ⟨name, value⟩ := head
      cases value with
      | none => exact ih.cons name
      | some json => exact ih.cons_cons name

theorem find?_present (distinct : (members.map (·.1)).Nodup) (name : String) :
    ((present members).find? (·.1 == name)).map (·.2) = (members.lookup name).join := by
  induction members with
  | nil => rfl
  | cons head rest ih =>
      obtain ⟨key, value⟩ := head
      obtain ⟨fresh, apart⟩ := List.nodup_cons.mp distinct
      by_cases same : key = name
      · subst same
        cases value with
        | some json => simp [present]
        | none =>
            have absent : rest.lookup key = none := by
              rw [List.lookup_eq_none_iff]
              intro member inRest
              rw [bne_iff_ne]
              intro eq
              exact fresh (List.mem_map.mpr ⟨member, inRest, eq.symm⟩)
            simpa [present, absent] using ih apart
      · have other : (name == key) = false := beq_eq_false_iff_ne.mpr (Ne.symm same)
        cases value with
        | some json => simpa [present, List.lookup_cons, other, same] using ih apart
        | none => simpa [present, List.lookup_cons, other] using ih apart

theorem length_filter_present_le (distinct : (members.map (·.1)).Nodup) (name : String) :
    ((present members).filter (·.1 == name)).length ≤ 1 := by
  calc ((present members).filter (·.1 == name)).length
      = ((present members).map (·.1)).count name := by
        rw [← List.countP_eq_length_filter, List.count, List.countP_map]
        rfl
    _ ≤ (members.map (·.1)).count name := (sublist_present members).count_le name
    _ ≤ 1 := List.nodup_iff_count_le_one.mp distinct name

/-- A record that was written is read with the members it was written with. -/
theorem record?_ofMembers (names : List String) (distinct : (members.map (·.1)).Nodup) :
    record? names (ofMembers members) = some (Fields.ofMembers members) := by
  have single :
      (names.all fun name => ((present members).filter (·.1 == name)).length ≤ 1) = true :=
    List.all_eq_true.mpr fun name _ => decide_eq_true (length_filter_present_le distinct name)
  exact (if_pos single).trans (congrArg some (funext (find?_present distinct)))

/-- A member of an object that was written is the one it was written with. -/
theorem find?_ofMembers (distinct : (members.map (·.1)).Nodup) (name : String) :
    (ofMembers members).find? name = (members.lookup name).join := by
  have alone : ((present members).filter (·.1 == name)).reverse =
      (present members).filter (·.1 == name) := by
    have single := length_filter_present_le distinct name
    generalize (present members).filter (·.1 == name) = found at single ⊢
    rcases found with - | ⟨member, - | ⟨other, rest⟩⟩
    · rfl
    · rfl
    · exact absurd single (by simp)
  calc (ofMembers members).find? name
      = ((present members).reverse.find? (·.1 == name)).map (·.2) := rfl
    _ = ((present members).find? (·.1 == name)).map (·.2) := by
        rw [← List.head?_filter, List.filter_reverse, alone, List.head?_filter]
    _ = (members.lookup name).join := find?_present distinct name

end Members

section Readers

variable {α : Type}

/-- Whether a reader gives back whatever was written. -/
def Undoes (read : Json → Option α) (write : α → Json) : Prop :=
  ∀ a, read (write a) = some a

theorem undoes_string : Undoes string? .str := fun _ => rfl

theorem undoes_bool : Undoes bool? .bool := fun _ => rfl

theorem undoes_int32 : Undoes int32? fun n => .int n.toInt := by
  intro n
  have low : -2147483648 ≤ n.toInt := Int32.minValue_le_toInt n
  have high : n.toInt ≤ 2147483647 := Int32.toInt_le n
  simp [int32?, intWithin?, low]
  exact high

theorem undoes_int64 : Undoes int64? fun n => .int n.toInt := by
  intro n
  have low : -9223372036854775808 ≤ n.toInt := Int64.minValue_le_toInt n
  have high : n.toInt ≤ 9223372036854775807 := Int64.toInt_le n
  simp [int64?, intWithin?, low]
  exact high

/-- The items of a list are read one by one. -/
theorem mapM_map {β γ : Type} {read : β → Option γ} {write : γ → β}
    (undoes : ∀ c, read (write c) = some c) (items : List γ) :
    (items.map write).mapM read = some items := by
  induction items with
  | nil => rfl
  | cons item rest ih => simp [undoes item, ih]

variable {read : Json → Option α} {write : α → Json}

theorem Undoes.list (h : Undoes read write) :
    Undoes (list? read) fun items => .arr (items.map write) :=
  mapM_map h

theorem Undoes.dictionary (h : Undoes read write) :
    Undoes (dictionary? read) (ofDictionary write) := by
  intro d
  have entries : (d.entries.map fun e => (e.1, write e.2)).mapM
      (fun m : String × Json => (read m.2).map (m.1, ·)) = some d.entries :=
    mapM_map (fun e : String × α => by simp [h e.2]) d.entries
  simp [dictionary?, ofDictionary, entries]

end Readers

section Fields

variable {α β : Type} {fields : Fields} {name : String} {read : Json → Option α}
  {write : α → Json}

/-- Reading a record starts with the members that it was written with. -/
theorem read_record {names : List String} {members : List (String × Option Json)}
    {next : Fields → Option β} {b : β} (distinct : (members.map (·.1)).Nodup)
    (rest : next (Fields.ofMembers members) = some b) :
    (record? names (ofMembers members) >>= next) = some b := by
  rw [record?_ofMembers names distinct]
  exact rest

/-- Reading a record goes on with the next field. -/
theorem read_field {field : Option α} {next : α → Option β} {a : α} {b : β}
    (here : field = some a) (rest : next a = some b) : (field >>= next) = some b := by
  rw [here]
  exact rest

/-- A required field gives what its reader makes of its member. -/
theorem required_eq (h : Undoes read write) {a : α} (member : fields name = some (write a)) :
    fields.required name read = some a := by
  rw [Fields.required, member]
  exact h a

/-- A field that is always written does not need its default. -/
theorem written_eq (h : Undoes read write) {value a : α}
    (member : fields name = some (write a)) : fields.withDefault name read value = some a := by
  rw [Fields.withDefault, member]
  exact h a

/-- A field that is left out has its default. -/
theorem default_eq {a : α} (member : fields name = none) :
    fields.withDefault name read a = some a := by
  rw [Fields.withDefault, member]

/-- A text that is left out when it is empty is empty when it is missing. -/
theorem text_eq {text : String} (member : fields name = ifText text) :
    fields.withDefault name string? "" = some text := by
  unfold ifText at member
  split at member
  next empty => rw [String.isEmpty_iff.mp empty, default_eq member]
  · exact written_eq undoes_string member

/-- A list that is left out when it is empty is empty when it is missing. -/
theorem items_eq (h : Undoes read write) {items : List α}
    (member : fields name = ifItems write items) :
    fields.withDefault name (list? read) [] = some items := by
  unfold ifItems at member
  split at member
  next empty => rw [List.isEmpty_iff.mp empty, default_eq member]
  · exact written_eq h.list member

/-- A dictionary that is left out when it is empty is empty when it is missing. -/
theorem entries_eq (h : Undoes read write) {d : Dictionary α}
    (member : fields name = ifEntries write d) :
    fields.withDefault name (dictionary? read) .empty = some d := by
  unfold ifEntries at member
  split at member
  next empty =>
    have eq : d = .empty := Dictionary.ext (List.isEmpty_iff.mp empty)
    rw [eq, default_eq member]
  · exact written_eq h.dictionary member

/-- An optional field gives the value that was written, if there was one. No value may be written
as `null`, which would count as missing. -/
theorem optional_eq_of_mem (strict : read null = none) {a : Option α}
    (h : ∀ x ∈ a, read (write x) = some x) (member : fields name = ifSome write a) :
    fields.optional name read = some a := by
  cases a with
  | none => rw [Fields.optional, member]; rfl
  | some a =>
      have undone : read (write a) = some a := h a rfl
      have visible : write a ≠ null := by
        intro eq
        rw [eq, strict] at undone
        cases undone
      have there : fields name = some (write a) := member
      unfold Fields.optional
      split
      next missing => rw [there] at missing; cases missing
      next null => rw [there] at null; exact absurd (Option.some.inj null) visible
      next json _ eq =>
        obtain rfl : write a = json := Option.some.inj (there.symm.trans eq)
        rw [undone]
        rfl

theorem optional_eq (h : Undoes read write) (strict : read null = none) {a : Option α}
    (member : fields name = ifSome write a) : fields.optional name read = some a :=
  optional_eq_of_mem strict (fun x _ => h x) member

/-- The value of an optional field was read from somewhere. -/
theorem exists_of_optional {a : α} (h : fields.optional name read = some (some a)) :
    ∃ json, read json = some a := by
  unfold Fields.optional at h
  split at h
  · cases h
  · cases h
  next json _ _ =>
    obtain ⟨b, read, eq⟩ := Option.map_eq_some_iff.mp h
    exact ⟨json, read.trans eq⟩

end Fields

end Json

end MachineProvider
