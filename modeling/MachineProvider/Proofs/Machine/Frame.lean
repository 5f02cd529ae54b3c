import MachineProvider.Proofs.Machine.Requests

/-!
# What a reconcile leaves alone

The machine that a reconcile gives back is stored also when the reconcile has failed. It differs from
the machine before in few places: the finalizer may be new, and then nothing else is; the provider
ID may be new, and then it is that of the instance that was created; and the status says what was
found out about the instance. `Frame` lists what stays as it was (`frame_next`).
-/

namespace MachineProvider.InfraMachine

/-- Whether two machines differ in nothing but what is reported about the instance. -/
structure Reports (m o : InfraMachine) : Prop where
  metadata : o.metadata = m.metadata
  spec : o.spec = m.spec
  conditions : ∀ type, type ≠ Condition.instanceReady →
    o.statusOrNew.conditions.filter (·.type = type) =
      m.statusOrNew.conditions.filter (·.type = type)
  interruption : o.statusOrNew.interruptionReason = m.statusOrNew.interruptionReason

namespace Reports

variable {m o p : InfraMachine}

theorem refl (m : InfraMachine) : Reports m m where
  metadata := rfl
  spec := rfl
  conditions _ _ := rfl
  interruption := rfl

theorem trans (h : Reports m o) (h' : Reports o p) : Reports m p where
  metadata := h'.metadata.trans h.metadata
  spec := h'.spec.trans h.spec
  conditions type other := (h'.conditions type other).trans (h.conditions type other)
  interruption := h'.interruption.trans h.interruption

theorem recordState (m : InfraMachine) (state : InstanceState) :
    Reports m (m.recordState state) where
  metadata := rfl
  spec := rfl
  conditions _ _ := rfl
  interruption := rfl

theorem notReadyAt (m : InfraMachine) (reason message : String) (severity : Severity)
    (now : Timestamp) : Reports m (m.notReadyAt reason message severity now) where
  metadata := rfl
  spec := rfl
  conditions _ other := Condition.filter_set_of_ne _ now _ other
  interruption := rfl

theorem failedAt (m : InfraMachine) (message : String) (now : Timestamp) :
    Reports m (m.failedAt message now) where
  metadata := rfl
  spec := rfl
  conditions _ other := Condition.filter_set_of_ne _ now _ other
  interruption := rfl

theorem runningAt (m : InfraMachine) (now : Timestamp) (i : Instance) :
    Reports m (m.runningAt now i) where
  metadata := rfl
  spec := rfl
  conditions _ other := Condition.filter_set_of_ne _ now _ other
  interruption := rfl

end Reports

variable {m o : InfraMachine} {i : Instance}

/-- What was observed of an instance is only reported. -/
theorem Projects.reports (h : Projects m i o) : Reports m o := by
  cases h with
  | running state now => exact (Reports.recordState ..).trans (Reports.runningAt ..)
  | stopped state => exact Reports.recordState ..
  | terminated state now => exact (Reports.recordState ..).trans (Reports.failedAt ..)
  | between idle asleep alive message severity now =>
      exact (Reports.recordState ..).trans (Reports.notReadyAt ..)

/-- What a reconcile leaves as it was in a machine, when `created` are the instances that were created
in it. -/
structure Frame (m : InfraMachine) (created : Instance → Prop) (o : InfraMachine) : Prop where
  /-- The metadata stay, or nothing but the finalizer of the controller is new. -/
  metadata : o.metadata = m.metadata ∨
    m.hasFinalizer finalizer = false ∧
      o = { m with metadata.finalizers := some (m.metadata.finalizerList ++ [finalizer]) }
  /-- Nothing else in the specification changes than the provider ID. -/
  spec : o.spec = { m.spec with providerId := o.spec.providerId }
  /-- A provider ID that is set stays. -/
  kept : ∀ raw, m.spec.providerId = some raw → o.spec.providerId = some raw
  /-- A provider ID that is not set becomes that of the instance that was created, if one was. -/
  stamped : m.spec.providerId = none → ∀ raw, o.spec.providerId = some raw ↔
    ∃ i, created i ∧ raw = "datacrunch://" ++ i.id
  conditions : ∀ type, type ≠ Condition.instanceReady →
    o.statusOrNew.conditions.filter (·.type = type) =
      m.statusOrNew.conditions.filter (·.type = type)
  interruption : o.statusOrNew.interruptionReason = m.statusOrNew.interruptionReason

variable {created : Instance → Prop}

/-- A machine on whose instance is only reported, and for which no instance is created. -/
theorem Reports.frame (h : Reports m o)
    (barren : m.spec.providerId = none → ∀ i, ¬ created i) : Frame m created o where
  metadata := .inl h.metadata
  spec := by rw [h.spec]
  kept _ named := by rw [h.spec, named]
  stamped unnamed raw := by
    rw [h.spec, unnamed]
    constructor
    · simp
    · rintro ⟨i, new, -⟩
      exact absurd new (barren unnamed i)
  conditions := h.conditions
  interruption := h.interruption

/-- A machine that names no instance and for which one is created. -/
theorem Reports.frame_stamped (unnamed : m.spec.providerId = none)
    (h : Reports (m.stampProviderId (ProviderId.ofInstance i.id)) o)
    (new : ∀ j, created j ↔ j = i) : Frame m created o := by
  have stamps : m.stampProviderId (ProviderId.ofInstance i.id) =
      { m with spec.providerId := some (ProviderId.ofInstance i.id) } := by
    simp [stampProviderId, unnamed]
  rw [stamps] at h
  exact
    { metadata := .inl h.metadata
      spec := by rw [h.spec]
      kept := fun raw named => by
        rw [unnamed] at named
        cases named
      stamped := fun _ raw => by
        rw [h.spec]
        constructor
        · rintro ⟨⟩
          exact ⟨i, (new i).mpr rfl, rfl⟩
        · rintro ⟨j, made, rfl⟩
          rw [(new j).mp made]
          rfl
      conditions := h.conditions
      interruption := h.interruption }

/-- What becomes of a machine that is reconciled, when the instances that it is seen with are those
that were created for it. -/
theorem Advances.frame {seen : List Instance} (h : Advances m seen o)
    (same : m.spec.providerId = none → ∀ i, created i ↔ i ∈ seen) : Frame m created o := by
  have barren : seen = [] → m.spec.providerId = none → ∀ i, ¬ created i := by
    rintro rfl unnamed i new
    exact absurd ((same unnamed i).mp new) List.not_mem_nil
  cases h with
  | kept => exact (Reports.refl m).frame (barren rfl)
  | guarded bare =>
      exact
        { metadata := .inr ⟨bare, rfl⟩
          spec := rfl
          kept := fun _ named => named
          stamped := ((Reports.refl m).frame (barren rfl)).stamped
          conditions := fun _ _ => rfl
          interruption := rfl }
  | held active reason message severity now =>
      exact (Reports.notReadyAt ..).frame (barren rfl)
  | vanished active named now => exact (Reports.failedAt ..).frame (barren rfl)
  | found active named projects =>
      refine projects.reports.frame ?_
      intro unnamed
      rw [unnamed] at named
      cases named
  | launched active unnamed now projects =>
      apply Reports.frame_stamped unnamed ((Reports.notReadyAt ..).trans projects.reports)
      simpa using same unnamed

namespace Turn

variable {t : Turn}

/-- A request of which something came was sent. -/
theorem mem_asked {r : Request} (deed : ∀ outcome, Exchange.isDeed ⟨.call r, outcome⟩ = true)
    {result : Except r.Failure r.Success}
    (logged : ⟨.call r, .finished result⟩ ∈ (t.run m).2.log) : r ∈ t.asked m :=
  List.mem_filterMap.mpr ⟨_, List.mem_filter.mpr ⟨logged, deed _⟩, rfl⟩

/-- The instances that a machine which names none is seen with are those that were created. -/
theorem created_iff (unnamed : m.spec.providerId = none) (i : Instance) :
    .finished (.ok i) ∈ t.creations m ↔ i ∈ t.observed m := by
  unfold creations observed Scene.creations Scene.observed
  simp only [List.mem_filterMap]
  constructor
  · rintro ⟨x, logged, created⟩
    unfold Exchange.creation? at created
    split at created
    · cases created
      exact ⟨_, logged, rfl⟩
    · cases created
  · rintro ⟨x, logged, seen⟩
    unfold Exchange.observed? at seen
    split at seen
    next id _ =>
      -- A look for an instance would have been sent for the one that the machine names.
      obtain ⟨s, ⟨reaches, named⟩, -⟩ := ((t.course m).mem_iff (by simp)).mp
        (mem_asked (fun _ => rfl) logged)
      simp [instanceId?, unnamed] at named
    next =>
      cases seen
      exact ⟨_, logged, rfl⟩
    · cases seen

/-- What a reconcile leaves as it was, whatever its result and whatever machine, scope, world and
guard it has. -/
theorem frame_next (t : Turn) (m : InfraMachine) :
    Frame m (fun i => .finished (.ok i) ∈ t.creations m) (t.next m) :=
  (t.advances m).frame created_iff

/-- The provider ID is recorded although a shutdown keeps the instance from being started. -/
example :
    let t := { sampleTurn .stopped with
      surroundings := { sampleCloud with
        duration := fun
          | .createInstance _, _, _ => 100
          | _, _, _ => 0 }
      guard := { deadline := 1000, cancelAt := some 50 } }
    (t.next sampleMachine).spec.providerId = some "datacrunch://i-1" ∧
      (t.asked sampleMachine).map Request.operation = ["create instance gpu-0"] := by
  constructor <;> rfl

end Turn

end MachineProvider.InfraMachine
