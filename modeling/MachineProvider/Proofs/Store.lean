import MachineProvider.Lease.Basic
import MachineProvider.Object.Basic
import Mathlib.Data.List.Nodup

/-!
# The versions of a stored object

The API server gives every version of an object that it stores a resource version that no version had
before, and accepts a write only over the current version. In a lawful store a resource version
therefore stands for one version of the object (`Lawful.eq_of_version`).
-/

namespace MachineProvider

/-- Objects that carry their resource version. -/
class Versioned (α : Type) where
  /-- The resource version of the object. -/
  version : α → Option String

instance {σ τ : Type} : Versioned (Object σ τ) := ⟨fun o => o.metadata.resourceVersion⟩

instance : Versioned Lease := ⟨fun l => l.metadata.resourceVersion⟩

export Versioned (version)

/-- What the API server has stored of an object. -/
structure Store (α : Type) where
  /-- The version that is stored now, unless the object is missing. -/
  current : Option α
  /-- All versions, the last one first. -/
  versions : List α

namespace Store

variable {α : Type}

/-- The store after another version. -/
def put (s : Store α) (v : α) : Store α where
  current := some v
  versions := v :: s.versions

/-- The store after the object went away. -/
def remove (s : Store α) : Store α :=
  { s with current := none }

variable [Versioned α]

/-- Whether a version may be stored next: it carries a resource version that no other version has. -/
structure IsFresh (s : Store α) (v : α) : Prop where
  isSome : (version v).isSome = true
  ne : ∀ w ∈ s.versions, version w ≠ version v

/-- A resource version that is not among the used ones is fresh. -/
theorem IsFresh.of_not_mem {s : Store α} {v : α} (isSome : (version v).isSome = true)
    (unused : version v ∉ s.versions.map version) : s.IsFresh v where
  isSome := isSome
  ne := fun _ hw same => unused (List.mem_map.mpr ⟨_, hw, same⟩)

/-- Whether a write over a stored version is accepted. A write without a resource version always
is. -/
def Accepts (s : Store α) (o : α) : Prop :=
  ∃ cur, s.current = some cur ∧ (version o = none ∨ version o = version cur)

/-- Every version has its own resource version, and the current version is the last one. -/
structure Lawful (s : Store α) : Prop where
  isSome : ∀ v ∈ s.versions, (version v).isSome = true
  distinct : (s.versions.map version).Nodup
  current : ∀ v, s.current = some v → s.versions.head? = some v

namespace Lawful

variable {s : Store α}

theorem put (h : s.Lawful) {v : α} (fresh : s.IsFresh v) : (s.put v).Lawful where
  isSome := by
    intro w hw
    rcases List.mem_cons.mp hw with rfl | hw
    · exact fresh.isSome
    · exact h.isSome w hw
  distinct := by
    refine List.nodup_cons.mpr ⟨?_, h.distinct⟩
    intro used
    obtain ⟨w, hw, same⟩ := List.mem_map.mp used
    exact fresh.ne w hw same
  current := fun _ hw => hw

theorem remove (h : s.Lawful) : s.remove.Lawful where
  isSome := h.isSome
  distinct := h.distinct
  current := nofun

theorem mem_of_current (h : s.Lawful) {v : α} (hv : s.current = some v) : v ∈ s.versions :=
  List.mem_of_head? (h.current v hv)

/-- A resource version stands for one version. -/
theorem eq_of_version (h : s.Lawful) {v w : α} (hv : v ∈ s.versions) (hw : w ∈ s.versions)
    (same : version v = version w) : v = w :=
  List.inj_on_of_nodup_map h.distinct hv hw same

/-- A write that carries the resource version of a stored version is accepted only when that version
is the current one. -/
theorem current_of_accepts (h : s.Lawful) {m o : α} (hm : m ∈ s.versions)
    (onto : version o = version m) (accepted : s.Accepts o) : s.current = some m := by
  obtain ⟨cur, hcur, unset | same⟩ := accepted
  · have set := h.isSome m hm
    rw [← onto, unset] at set
    cases set
  · rw [onto] at same
    rw [hcur, h.eq_of_version hm (h.mem_of_current hcur) same]

end Lawful

/-- The store of an object that was never stored. -/
def empty : Store α where
  current := none
  versions := []

theorem Lawful.empty : (empty : Store α).Lawful where
  isSome := by
    intro v hv
    cases hv
  distinct := List.nodup_nil
  current := by
    intro v hv
    cases hv

theorem IsFresh.empty {v : α} (h : (version v).isSome = true) : (empty : Store α).IsFresh v where
  isSome := h
  ne := by
    intro w hw
    cases hw

/-- The store of an object that is stored for the first time. -/
def ofVersion (v : α) : Store α where
  current := some v
  versions := [v]

theorem Lawful.ofVersion {v : α} (h : (version v).isSome = true) : (Store.ofVersion v).Lawful where
  isSome := by
    intro w hw
    rwa [List.mem_singleton.mp hw]
  distinct := List.nodup_singleton _
  current := fun _ hw => hw

end Store

end MachineProvider
