import MachineProvider.ProviderId

/-!
# Provider IDs of instances

What was written with `ofInstance` is read back by `parse?`, unless the instance ID is empty, and
nothing else is read (`parse?_eq_some`).
-/

namespace MachineProvider.ProviderId

theorem split?_ofInstance (id : String) :
    split? (ofInstance id).toList = some (scheme.toList, id.toList) := by
  have chars : (ofInstance id).toList = scheme.toList ++ (':' :: '/' :: '/' :: id.toList) := by
    simp [ofInstance, String.toList_append]
  rw [chars]
  rfl

/-- The provider ID of an instance leads back to the instance. -/
theorem parse?_ofInstance {id : String} (h : id ≠ "") : parse? (ofInstance id) = some id := by
  have nonempty : id.toList.isEmpty = false := by
    rw [List.isEmpty_eq_false_iff]
    intro empty
    exact h (String.toList_eq_nil_iff.mp empty)
  simp [parse?, split?_ofInstance, nonempty, String.ofList_toList]

/-- A split loses nothing but the separator. -/
theorem eq_of_split? {raw front back : List Char} (h : split? raw = some (front, back)) :
    raw = front ++ ':' :: '/' :: '/' :: back := by
  fun_induction split? raw generalizing front with
  | case1 => cases h
  | case2 rest =>
    cases h
    rfl
  | case3 c rest _ ih =>
    obtain ⟨⟨front', back'⟩, split, same⟩ := Option.map_eq_some_iff.mp h
    cases same
    rw [ih split]
    rfl

/-- The provider IDs that are read are those of the instances whose ID is not empty. -/
theorem parse?_eq_some {raw id : String} :
    parse? raw = some id ↔ raw = ofInstance id ∧ id ≠ "" := by
  constructor
  · intro h
    unfold parse? at h
    split at h
    next front back split =>
      split at h
      next valid =>
        obtain ⟨own, nonempty⟩ : front = scheme.toList ∧ back ≠ [] := by simpa using valid
        cases h
        constructor
        · rw [← String.toList_inj, eq_of_split? split, own]
          simp [ofInstance, String.toList_append]
        · intro empty
          exact nonempty (String.ofList_eq_empty_iff.mp empty)
      · cases h
    · cases h
  · rintro ⟨rfl, nonempty⟩
    exact parse?_ofInstance nonempty

end MachineProvider.ProviderId
