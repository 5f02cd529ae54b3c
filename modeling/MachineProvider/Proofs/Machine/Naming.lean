import MachineProvider.Proofs.Machine.Frame
import MachineProvider.Proofs.ProviderId

/-!
# The instance that a machine names

The provider ID is all that ties a machine to its instance. An instance ID may have any characters,
those of the separator too: it is stamped on the machine as a text from which it is read back as it
is, and no other text is read. A stamp stays through every sequence of reconciles
(`providerId_after`), so the instance is always looked for under the ID that was stamped
(`sought_as_stamped`).
-/

namespace MachineProvider.InfraMachine

open ProviderId (parse? ofInstance)

/-- Whether the instance of a machine is looked for under an ID: one question is asked, whoever
answers it, and it is the one about that instance. -/
def IsSoughtAs (m : InfraMachine) (id : String) : Prop :=
  ∀ {σ : Type} (answer : (q : Service.Question) → σ → Service.Answer q × σ) (s : σ),
    (m.findInstance.run answer s).2 = (answer (.call (.getInstance id)) s).2

variable {m o : InfraMachine} {id raw : String}

/-- A stamp on a machine that names no instance becomes its provider ID. -/
theorem providerId_stampProviderId_of_unnamed (unnamed : m.spec.providerId = none)
    (raw : String) : (m.stampProviderId raw).spec.providerId = some raw := by
  simp [stampProviderId, unnamed]

/-- No reconcile replaces a provider ID. -/
theorem Advances.providerId {seen : List Instance} (h : Advances m seen o)
    (named : m.spec.providerId = some raw) : o.spec.providerId = some raw := by
  have frame : Frame m (· ∈ seen) o := h.frame fun _ _ => Iff.rfl
  exact frame.kept raw named

/-- No sequence of reconciles replaces a provider ID. -/
theorem providerId_after (named : m.spec.providerId = some raw) (turns : List Turn) :
    (m.after turns).spec.providerId = some raw :=
  after_induction named (fun _ _ _ kept step => step.providerId kept) turns

/-- A machine with the provider ID of an instance names that instance. -/
theorem instanceId?_of_stamp (stamped : m.spec.providerId = some (ofInstance id)) (h : id ≠ "") :
    m.instanceId? = some id := by
  rw [instanceId?, stamped]
  exact ProviderId.parse?_ofInstance h

/-- A machine that names an instance has it looked for under this name. -/
theorem isSoughtAs_of_named (named : m.instanceId? = some id) : m.IsSoughtAs id := by
  intro σ answer s
  obtain ⟨raw, recorded, parsed⟩ := Option.bind_eq_some_iff.mp named
  simp only [findInstance, recorded, parsed]
  refine Procedure.snd_run_bind ?_
  rintro (e | i) <;> exact ⟨_, rfl⟩

/-- A reconcile asks the cloud for the instance that the machine names, when it gets as far as the
cloud before a shutdown, and it asks for no other one. -/
theorem Turn.getInstance_mem_asked (t : Turn) (named : m.instanceId? = some id) (other : String) :
    .getInstance other ∈ t.asked m ↔ other = id ∧ t.ReachesCloud m ∧
      t.guard.isCancelled { instant := t.client.2.instant } = false := by
  rw [(t.course m).mem_iff (by simp)]
  constructor
  · rintro ⟨s, ⟨reaches, named'⟩, live, -⟩
    rw [named] at named'
    exact ⟨(Option.some.inj named').symm, reaches, live⟩
  · rintro ⟨rfl, reaches, live⟩
    exact ⟨_, .lookUp reaches named, live, by simp [Request.patience]⟩

/-- A text is read as a provider ID exactly when it is the scheme of this provider with an instance
ID that is not empty, and the ID that is read gives the text back. Every instance ID that is not
empty is read back from its provider ID. So a machine that was stamped with it keeps the stamp
however often it is reconciled, and for any version of the machine with this stamp it is this
instance that is looked for, and no other one. -/
theorem sought_as_stamped :
    (∀ raw, (∃ id, parse? raw = some id) ↔ ∃ id, id ≠ "" ∧ raw = "datacrunch://" ++ id) ∧
      (∀ raw id, parse? raw = some id → ofInstance id = raw) ∧
      (∀ id, id ≠ "" → parse? (ofInstance id) = some id) ∧
      ∀ (m : InfraMachine) (id : String), m.spec.providerId = none → id ≠ "" →
        let stamped := m.stampProviderId (ofInstance id)
        (∀ turns, (stamped.after turns).spec.providerId = stamped.spec.providerId) ∧
          ∀ o : InfraMachine, o.spec.providerId = stamped.spec.providerId →
            o.IsSoughtAs id ∧ ∀ (t : Turn) (other : String),
              .getInstance other ∈ t.asked o ↔ other = id ∧ t.ReachesCloud o ∧
                t.guard.isCancelled { instant := t.client.2.instant } = false := by
  refine ⟨fun raw => ?_, fun raw id read => (ProviderId.parse?_eq_some.mp read).1.symm,
    fun id => ProviderId.parse?_ofInstance, fun m id unnamed nonempty => ?_⟩
  · constructor
    · rintro ⟨id, read⟩
      obtain ⟨rfl, nonempty⟩ := ProviderId.parse?_eq_some.mp read
      exact ⟨id, nonempty, rfl⟩
    · rintro ⟨id, nonempty, rfl⟩
      exact ⟨id, ProviderId.parse?_ofInstance nonempty⟩
  · intro stamped
    have stamp : stamped.spec.providerId = some (ofInstance id) :=
      providerId_stampProviderId_of_unnamed unnamed _
    constructor
    · intro turns
      rw [stamp]
      exact providerId_after stamp turns
    · intro o same
      have named : o.instanceId? = some id := instanceId?_of_stamp (same.trans stamp) nonempty
      exact ⟨isSoughtAs_of_named named, fun t => t.getInstance_mem_asked named⟩

/-- An instance ID that starts with a slash and has the separator in it is read back from the
machine that it was stamped on. -/
theorem sought_as_stamped_of_separated :
    let id := "/a://b"
    let stamped := sampleMachine.stampProviderId (ofInstance id)
    sampleMachine.spec.providerId = none ∧ id ≠ "" ∧
      stamped.spec.providerId = some "datacrunch:///a://b" ∧
      parse? "datacrunch:///a://b" = some id ∧ stamped.IsSoughtAs id := by
  intro id stamped
  have unnamed : sampleMachine.spec.providerId = none := rfl
  have nonempty : id ≠ "" := by decide
  obtain ⟨-, -, readBack, sought⟩ := sought_as_stamped
  exact ⟨unnamed, nonempty, rfl, readBack id nonempty,
    ((sought sampleMachine id unnamed nonempty).2 stamped rfl).1⟩

end MachineProvider.InfraMachine
