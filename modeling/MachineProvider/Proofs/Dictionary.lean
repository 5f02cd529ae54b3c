import MachineProvider.Dictionary
import Mathlib.Data.List.Basic

/-!
# Looking up what was put into a dictionary

A dictionary shows the value that was set last for a key, and setting or removing a key leaves all
others as they were. A dictionary is put together again from its entries (`ofList_entries`).
-/

namespace MachineProvider

namespace Dictionary

variable {α : Type}

/-- An entry with the greatest key is put at the end. -/
theorem insertEntry_eq_append {key : String} {value : α} {entries : List (String × α)}
    (greatest : ∀ e ∈ entries, e.1 < key) :
    insertEntry key value entries = entries ++ [(key, value)] := by
  induction entries with
  | nil => rfl
  | cons head rest ih =>
      obtain ⟨k, v⟩ := head
      have below : k < key := greatest _ List.mem_cons_self
      have differ : key ≠ k := fun same => String.lt_irrefl _ (same ▸ below)
      rw [insertEntry, if_neg (String.lt_asymm below), if_neg differ,
        ih fun e member => greatest e (List.mem_cons_of_mem _ member)]
      rfl

/-- Entries whose keys increase are put behind those that are there. -/
theorem entries_foldl_insert (d : Dictionary α) (rest : List (String × α))
    (increasing : Increasing (d.entries ++ rest)) :
    (rest.foldl (fun d (key, value) => d.insert key value) d).entries = d.entries ++ rest := by
  induction rest generalizing d with
  | nil => simp
  | cons e rest ih =>
      have last : (d.insert e.1 e.2).entries = d.entries ++ [e] :=
        insertEntry_eq_append fun x member =>
          (List.pairwise_append.mp increasing).2.2 x member e List.mem_cons_self
      have onward : (d.insert e.1 e.2).entries ++ rest = d.entries ++ e :: rest := by
        rw [last, List.append_assoc, List.singleton_append]
      rw [List.foldl_cons, ih _ (onward ▸ increasing), onward]

/-- A dictionary is the one of its entries. -/
@[simp] theorem ofList_entries (d : Dictionary α) : ofList d.entries = d :=
  ext (entries_foldl_insert empty d.entries d.increasing)

section Lookup

variable (d : Dictionary α) (key : String) (value : α)

theorem lookup_insertEntry (entries : List (String × α)) :
    (insertEntry key value entries).lookup key = some value := by
  induction entries with
  | nil => simp [insertEntry]
  | cons head rest ih =>
      obtain ⟨k, v⟩ := head
      unfold insertEntry
      split
      · simp
      split
      · simp
      next differ =>
        have other : (key == k) = false := beq_eq_false_iff_ne.mpr differ
        rw [List.lookup_cons, other]
        exact ih

theorem lookup_insertEntry_of_ne {other : String} (differ : other ≠ key)
    (entries : List (String × α)) :
    (insertEntry key value entries).lookup other = entries.lookup other := by
  have apart : (other == key) = false := beq_eq_false_iff_ne.mpr differ
  induction entries with
  | nil => simp [insertEntry, List.lookup_cons, apart]
  | cons head rest ih =>
      obtain ⟨k, v⟩ := head
      unfold insertEntry
      split
      · simp [List.lookup_cons, apart]
      split
      next same => simp [List.lookup_cons, ← same, apart]
      · simp [List.lookup_cons, ih]

theorem lookup_filter_of_ne {key other : String} (differ : other ≠ key)
    (entries : List (String × α)) :
    (entries.filter (·.1 != key)).lookup other = entries.lookup other := by
  induction entries with
  | nil => rfl
  | cons head rest ih =>
      obtain ⟨k, v⟩ := head
      by_cases same : k = key
      · subst same
        have apart : (other == k) = false := beq_eq_false_iff_ne.mpr differ
        simpa [List.lookup_cons, apart] using ih
      · simp [List.lookup_cons, same, ih]

@[simp] theorem get?_insert : (d.insert key value).get? key = some value :=
  lookup_insertEntry key value d.entries

theorem get?_insert_of_ne {other : String} (differ : other ≠ key) :
    (d.insert key value).get? other = d.get? other :=
  lookup_insertEntry_of_ne key value differ d.entries

@[simp] theorem get?_erase : (d.erase key).get? key = none := by
  unfold get? erase
  rw [List.lookup_eq_none_iff]
  intro entry member
  have kept := (List.mem_filter.mp member).2
  rw [bne_iff_ne] at kept ⊢
  exact kept.symm

theorem get?_erase_of_ne {other : String} (differ : other ≠ key) :
    (d.erase key).get? other = d.get? other :=
  lookup_filter_of_ne differ d.entries

end Lookup

end Dictionary

end MachineProvider
