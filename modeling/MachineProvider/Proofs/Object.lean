import MachineProvider.Object.Basic

/-!
# Finalizers on objects

Adding a finalizer changes nothing but the finalizers, and removes none; removing one changes
nothing but the finalizers either, and removes no other.
-/

namespace MachineProvider.Object

variable {σ τ : Type} (o : Object σ τ) (f g : String)

theorem hasFinalizer_pushFinalizer :
    (o.pushFinalizer f).hasFinalizer g = (o.hasFinalizer g || decide (g = f)) := by
  simp [hasFinalizer, pushFinalizer, Metadata.finalizerList]

@[simp] theorem addFinalizer_spec : (o.addFinalizer f).spec = o.spec := by
  unfold addFinalizer
  split <;> rfl

@[simp] theorem addFinalizer_name : (o.addFinalizer f).metadata.name = o.metadata.name := by
  unfold addFinalizer
  split <;> rfl

@[simp] theorem addFinalizer_resourceVersion :
    (o.addFinalizer f).metadata.resourceVersion = o.metadata.resourceVersion := by
  unfold addFinalizer
  split <;> rfl

/-- Adding a finalizer removes none. -/
theorem hasFinalizer_addFinalizer (h : o.hasFinalizer g = true) :
    (o.addFinalizer f).hasFinalizer g = true := by
  unfold addFinalizer
  split
  · exact h
  · rw [hasFinalizer_pushFinalizer, h]
    rfl

/-- Adding a finalizer changes nothing in the metadata but the finalizers. -/
theorem metadata_addFinalizer : (o.addFinalizer f).metadata =
    { o.metadata with finalizers := (o.addFinalizer f).metadata.finalizers } := by
  unfold addFinalizer
  split <;> rfl

/-- A finalizer that is added is there afterwards, and not once more when it was there before. -/
theorem finalizerList_addFinalizer : (o.addFinalizer f).metadata.finalizerList =
    o.metadata.finalizerList ++ if o.hasFinalizer f then [] else [f] := by
  unfold addFinalizer
  split
  · exact (List.append_nil _).symm
  · rfl

/-- Taking a finalizer off changes the finalizers. -/
theorem finalizerList_removeFinalizer_ne (h : o.hasFinalizer f = true) :
    o.metadata.finalizerList ≠ (o.removeFinalizer f).metadata.finalizerList := by
  intro same
  have kept : f ∈ o.metadata.finalizerList := List.contains_iff_mem.mp h
  rw [same] at kept
  have removed := (List.mem_filter.mp kept).2
  simp at removed

end MachineProvider.Object
