import MachineProvider.Proofs.Machine.Cleanup
import MachineProvider.Proofs.Surroundings

/-!
# Interrupted cleanups

A cleanup may be interrupted by a shutdown or a deadline, and reading the credentials may fail. An
interrupted request to the cloud keeps the finalizer. Where it goes nevertheless, the instance is
known to be gone, or the cleanup would have let the machine go in any case without asking the cloud,
or it was the credentials that could not be read: then no client can be set up, and the machine is
let go without a look at the cloud.
-/

namespace MachineProvider

namespace Exchange

/-- Nothing disturbed the exchange, and the cloud was not asked. -/
def IsQuiet (x : Exchange) : Prop :=
  x.IsUndisturbed ∧ ¬ x.AsksCloud

theorem InterruptsCloud.asksCloud {x : Exchange} (h : x.InterruptsCloud) : x.AsksCloud := by
  obtain ⟨q, a⟩ := x
  cases q with
  | call r =>
      cases r with
      | readSecret purpose location => exact h.elim
      | _ => trivial
  | _ => exact h.elim

end Exchange

namespace InfraMachine

open Procedure Surroundings

variable {m : InfraMachine} {config : Config} {r : InfraMachine × Except Error Action}
  {log : List Exchange}

/-- What a cleanup has to show when it takes the finalizer off. -/
structure Excused (r : InfraMachine × Except Error Action) (log : List Exchange) : Prop where
  released : r.1.hasFinalizer finalizer = false →
    (∃ x ∈ log, x.ConfirmsGone) ∨ (∀ x ∈ log, x.IsQuiet) ∨
      (∃ x ∈ log, x.LosesCredentials) ∧ ∀ x ∈ log, ¬ x.AsksCloud
  interrupted : (∃ x ∈ log, x.InterruptsCloud) → r.1.hasFinalizer finalizer = true

namespace Excused

theorem of_kept (h : r.1.hasFinalizer finalizer = true) : Excused r log where
  released := by
    intro released
    rw [h] at released
    cases released
  interrupted := fun _ => h

theorem of_gone (gone : ∃ x ∈ log, x.ConfirmsGone) (through : ∀ x ∈ log, ¬ x.InterruptsCloud) :
    Excused r log where
  released := fun _ => .inl gone
  interrupted := fun ⟨x, hx, interrupted⟩ => absurd interrupted (through x hx)

theorem of_quiet (quiet : ∀ x ∈ log, x.IsQuiet) : Excused r log where
  released := fun _ => .inr (.inl quiet)
  interrupted := fun ⟨x, hx, interrupted⟩ => absurd interrupted.asksCloud (quiet x hx).2

theorem of_lost (lost : ∃ x ∈ log, x.LosesCredentials) (unasked : ∀ x ∈ log, ¬ x.AsksCloud) :
    Excused r log where
  released := fun _ => .inr (.inr ⟨lost, unasked⟩)
  interrupted := fun ⟨x, hx, interrupted⟩ => absurd interrupted.asksCloud (unasked x hx)

end Excused

/-- Once there is a client, the machine is let go only when it names no instance or its instance is
gone. -/
theorem excused_tearDown (guarded : m.hasFinalizer finalizer = true)
    (quiet : ∀ x ∈ log, x.IsQuiet) :
    (m.tearDown config).Follows logging Excused log := by
  have through : ∀ x ∈ log, ¬ x.InterruptsCloud :=
    fun x hx interrupted => (quiet x hx).2 interrupted.asksCloud
  have kept : ∀ outcome log, Excused (m, outcome) log := fun _ _ => .of_kept guarded
  unfold tearDown findInstance
  cases hraw : m.spec.providerId with
  | none => exact .of_quiet quiet
  | some raw =>
      dsimp only
      cases hid : ProviderId.parse? raw with
      | none => exact .of_quiet quiet
      | some id =>
          refine ⟨trivial, ?_⟩
          rintro (cause | cause | (e | i)) -
          · cases cause <;> exact kept _ _
          · cases cause <;> exact kept _ _
          · by_cases unknown : e.isNotFound = true
            · have ends : Excused m.release (⟨.call (.getInstance id), .finished (.error e)⟩ :: log) :=
                .of_gone ⟨_, List.mem_cons_self, unknown⟩ (List.forall_mem_cons.mpr ⟨fun h => h, through⟩)
              simpa [Service.received, Request.toError, Error.isCloudNotFound, unknown, logging]
                using ends
            · simpa [Service.received, Request.toError, Error.isCloudNotFound, unknown]
                using kept _ _
          · have found : ∀ x ∈ (⟨.call (.getInstance id), .finished (.ok i)⟩ :: log : List Exchange),
                ¬ x.InterruptsCloud := List.forall_mem_cons.mpr ⟨fun h => h, through⟩
            refine ⟨trivial, ?_⟩
            rintro (cause | cause | (e | ⟨⟩)) -
            · cases cause <;> exact kept _ _
            · cases cause <;> exact kept _ _
            · by_cases unknown : e.isNotFound = true
              · have ends : ∀ event, Excused m.release (⟨.publish event, ()⟩ ::
                    ⟨.call (.deleteInstance i.id), .finished (.error e)⟩ ::
                    ⟨.call (.getInstance id), .finished (.ok i)⟩ :: log) := by
                  intro event
                  refine .of_gone ⟨_, List.mem_cons_of_mem _ List.mem_cons_self, unknown⟩ ?_
                  exact List.forall_mem_cons.mpr
                    ⟨fun h => h, List.forall_mem_cons.mpr ⟨fun h => h, found⟩⟩
                simp only [Service.received, Request.toError, done_bind, Error.isCloudNotFound,
                  unknown, if_true]
                exact ⟨trivial, fun _ _ => ends _⟩
              · simpa [Service.received, Request.toError, Error.isCloudNotFound, unknown]
                  using kept _ _
            · refine ⟨trivial, fun _ _ => ?_⟩
              refine .of_gone ⟨_, List.mem_cons_of_mem _ List.mem_cons_self, trivial⟩ ?_
              exact List.forall_mem_cons.mpr
                ⟨fun h => h, List.forall_mem_cons.mpr ⟨fun h => h, found⟩⟩

/-- A cleanup takes the finalizer off only with an excuse. -/
theorem excused_cleanUp (guarded : m.hasFinalizer finalizer = true)
    (credentials : Option SecretLocation) :
    (m.cleanUp credentials config).Follows logging Excused [] := by
  unfold cleanUp
  rw [guarded]
  cases credentials with
  | none => exact .of_quiet fun _ hx => absurd hx List.not_mem_nil
  | some location =>
      have alone : ∀ x : Exchange, ¬ x.AsksCloud → ∀ y ∈ [x], ¬ y.AsksCloud := by
        intro x hx y hy
        rw [List.mem_singleton.mp hy]
        exact hx
      refine ⟨trivial, ?_⟩
      rintro (cause | cause | (e | data | data)) -
      · exact .of_lost ⟨_, List.mem_cons_self, trivial⟩ (alone _ fun h => h)
      · exact .of_lost ⟨_, List.mem_cons_self, trivial⟩ (alone _ fun h => h)
      · exact .of_lost ⟨_, List.mem_cons_self, trivial⟩ (alone _ fun h => h)
      · refine .of_quiet fun x hx => ?_
        rw [List.mem_singleton.mp hx]
        exact ⟨trivial, fun h => h⟩
      · have quiet : ∀ x ∈ [(⟨.call (.readSecret .credentials location),
            .finished (.ok (some data))⟩ : Exchange)], x.IsQuiet := by
          intro x hx
          rw [List.mem_singleton.mp hx]
          exact ⟨trivial, fun h => h⟩
        simp only [Service.received, done_bind]
        cases Credentials.ofSecret data location with
        | error e => exact .of_quiet quiet
        | ok usable =>
            refine ⟨trivial, ?_⟩
            rintro (e | ⟨⟩) -
            · exact .of_quiet (List.forall_mem_cons.mpr ⟨⟨trivial, fun h => h⟩, quiet⟩)
            · exact excused_tearDown guarded
                (List.forall_mem_cons.mpr ⟨⟨trivial, fun h => h⟩, quiet⟩)

/-- A cleanup that starts at an instant in a world. -/
def cleanUpIn {κ : Type} (W : Surroundings κ) (c : Conditions) (world : κ) (instant : Nat)
    (m : InfraMachine) (credentials : Option SecretLocation) (config : Config) :
    (InfraMachine × Except Error Action) × Scene κ :=
  (m.cleanUp credentials config).run (W.answer c) { world, instant, log := [] }

/-- When a cleanup under a guard takes the finalizer off, the instance is gone, or the cleanup would
have done so in calm conditions and without asking the cloud, or the credentials could not be read
and the cloud was not asked. An interrupted request to the cloud keeps the finalizer. -/
theorem cleanUp_under_guard {κ : Type} (W : Surroundings κ) (g : Guard)
    (unreadable : Option ApiFailure) (world : κ) (instant : Nat) (m : InfraMachine)
    (credentials : Option SecretLocation) (config : Config)
    (guarded : m.hasFinalizer finalizer = true) :
    let disturbed := m.cleanUpIn W (.under g unreadable) world instant credentials config
    let calm := m.cleanUpIn W .calm world instant credentials config
    (disturbed.1.1.hasFinalizer finalizer = false →
      (∃ x ∈ disturbed.2.log, x.ConfirmsGone) ∨
        (calm.1.1.hasFinalizer finalizer = false ∧ ∀ x ∈ calm.2.log, ¬ x.AsksCloud) ∨
        (∃ x ∈ disturbed.2.log, x.LosesCredentials) ∧ ∀ x ∈ disturbed.2.log, ¬ x.AsksCloud) ∧
      ((∃ x ∈ disturbed.2.log, x.InterruptsCloud) →
        disturbed.1.1.hasFinalizer finalizer = true) := by
  intro disturbed calm
  have excused : Excused disturbed.1 disturbed.2.log := run_logged (excused_cleanUp guarded _)
  refine ⟨?_, excused.interrupted⟩
  intro released
  rcases excused.released released with gone | quiet | lost
  · exact .inl gone
  · have same : calm = disturbed :=
      run_calm (Conditions.isPrompt_under g unreadable) _ fun x hx => (quiet x hx).1
    rw [same]
    exact .inr (.inl ⟨released, fun x hx => (quiet x hx).2⟩)
  · exact .inr (.inr lost)

/-- A world with readable secrets in which the instance of the machine may exist. Requests take no
time. -/
def sampleSurroundings : Surroundings Bool where
  duration _ _ _ := 0
  work
    | .readSecret .., _, present => (.ok (some sampleSecret), present)
    | .createInstance _, _, present => (.error (.unimplemented "create"), present)
    | .getInstance id, _, present =>
      (if present then .ok sampleInstance else .error (.notFound "get" id), present)
    | .startInstance _, _, present => (.ok (), present)
    | .deleteInstance _, _, _ => (.ok (), false)
    | .deleteLoadBalancer _, _, present => (.ok (), present)
  leave _ _ present := present
  connect _ _ _ := .ok ()
  clock _ _ := default

/-- Where the credentials of the machine are. -/
def sampleLocation : SecretLocation where
  «namespace» := "default"
  name := "datacrunch-credentials"

/-- The same world, except that deleting an instance takes time. -/
def slowSurroundings : Surroundings Bool :=
  { sampleSurroundings with
    duration := fun
      | .deleteInstance _, _, _ => 800
      | _, _, _ => 0 }

/-- The deadline comes while the instance is deleted, and the finalizer stays. -/
theorem cleanUp_under_guard_of_sample :
    let disturbed := sampleDeleted.cleanUpIn slowSurroundings
      (.under { deadline := 1000 } none) true 1000 (some sampleLocation) {}
    let deletion : Exchange := ⟨.call (.deleteInstance "i-1"), .abandoned .deadlineExceeded⟩
    sampleDeleted.hasFinalizer finalizer = true ∧ deletion ∈ disturbed.2.log ∧
      disturbed.2.world = true ∧ disturbed.1.1.hasFinalizer finalizer = true := by
  intro disturbed deletion
  have guarded : sampleDeleted.hasFinalizer finalizer = true := rfl
  have logged : deletion ∈ disturbed.2.log := List.mem_cons_self
  have settled := cleanUp_under_guard slowSurroundings { deadline := 1000 } none true 1000
    sampleDeleted (some sampleLocation) {} guarded
  exact ⟨guarded, logged, rfl, settled.2 ⟨deletion, logged, trivial⟩⟩

/-- A shutdown while the credentials are read takes the finalizer off although the instance exists,
which the cleanup would have deleted otherwise. -/
theorem released_while_instance_exists :
    let disturbed := sampleDeleted.cleanUpIn sampleSurroundings
      (.under { deadline := 1000, cancelled := true } none) true 0 (some sampleLocation) {}
    let calm := sampleDeleted.cleanUpIn sampleSurroundings .calm true 0 (some sampleLocation) {}
    sampleDeleted.hasFinalizer finalizer = true ∧ disturbed.1.1.hasFinalizer finalizer = false ∧
      disturbed.2.world = true ∧ (∀ x ∈ disturbed.2.log, ¬ x.ConfirmsGone) ∧
      ⟨.call (.deleteInstance "i-1"), .finished (.ok ())⟩ ∈ calm.2.log := by
  refine ⟨rfl, rfl, rfl, ?_, ?_⟩
  · intro x hx
    rw [List.mem_singleton.mp hx]
    exact fun h => h
  · exact List.mem_cons_of_mem _ List.mem_cons_self

end InfraMachine

end MachineProvider
