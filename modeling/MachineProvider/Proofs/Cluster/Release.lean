import MachineProvider.Proofs.Cluster.Readiness
import MachineProvider.Proofs.Machine.Requests

/-!
# Deleted clusters

Nothing keeps a deleted cluster from going away: whatever comes of the secret, the connector, the
cloud and the guard, a cleanup takes the finalizer off and succeeds (`yields_cleanUp`). The load
balancer that is recorded is taken down on the way, when there is a client and no shutdown has begun
(`asked_deleteLoadBalancer`), and nothing else is asked of the cloud. `cleanUp_releases` puts the
two together.
-/

namespace MachineProvider.InfraCluster

open Procedure Surroundings

/-- Whether a cluster records a load balancer with an ID that is not empty. -/
def RecordsBalancer (c : InfraCluster) (id : String) : Prop :=
  ∃ status balancer, c.status = some status ∧ status.loadBalancer = some balancer ∧
    balancer.id = id ∧ id ≠ ""

section Parts

variable {κ : Type} {W : Surroundings κ} {g : Guard} {unreadable : Option ApiFailure}
  {c : InfraCluster} {location : SecretLocation} {s : Scene κ}

theorem loadBalancerId?_eq_some {id : String} :
    c.loadBalancerId? = some id ↔ c.RecordsBalancer id := by
  unfold loadBalancerId? statusOrNew RecordsBalancer
  cases c.status with
  | none => simp
  | some status =>
    cases recorded : status.loadBalancer with
    | none => simp [recorded]
    | some balancer =>
      simp only [Option.getD_some, recorded, Option.ite_none_left_eq_some,
        Option.some.injEq, exists_eq_left', exists_and_left]
      constructor
      · rintro ⟨filled, rfl⟩
        exact ⟨rfl, by simpa using filled⟩
      · rintro ⟨rfl, filled⟩
        exact ⟨by simpa using filled, rfl⟩

/-- A cleanup ends the same way, whatever the services answer. -/
theorem yields_cleanUp (guarded : c.hasFinalizer finalizer = true) (location : SecretLocation) :
    (c.cleanUp location).Yields (· = (c.removeFinalizer finalizer, .ok .awaitChange)) := by
  unfold cleanUp
  rw [guarded]
  exact (yields_of_forall (fun _ => trivial) (c.deleteLoadBalancer location)).bind fun _ _ => rfl

/-- The requests of a cleanup are those for the load balancer. -/
theorem asked_cleanUp (guarded : c.hasFinalizer finalizer = true) :
    ((c.cleanUp location).run (W.answer (.under g unreadable)) s).2.asked =
      ((c.deleteLoadBalancer location).run (W.answer (.under g unreadable)) s).2.asked := by
  unfold cleanUp
  rw [guarded]
  exact congrArg Scene.asked (snd_run_bind fun _ => ⟨_, rfl⟩)

/-- The load balancer is asked to go when there is a client, one is recorded, and the guard is not
cancelled by then. -/
theorem asked_deleteLoadBalancer {client : Except Error Unit} {s' : Scene κ} (quiet : s.asked = [])
    (connected : (Service.connect location).run (W.answer (.under g unreadable)) s = (client, s')) :
    let asked := ((c.deleteLoadBalancer location).run (W.answer (.under g unreadable)) s).2.asked
    (asked = [] ∧ ∀ id, client = .ok () → c.RecordsBalancer id →
        g.isCancelled { instant := s'.instant } = true) ∨
      ∃ id, asked = [.deleteLoadBalancer id] ∧ client = .ok () ∧ c.RecordsBalancer id ∧
        g.isCancelled { instant := s'.instant } = false := by
  intro asked
  have unasked : s'.asked = [] := by
    have same : ((Service.connect location).run (W.answer (.under g unreadable)) s).2.deeds = _ :=
      deeds_connect location
    rw [connected] at same
    rw [Scene.asked, same]
    exact quiet
  have splits : asked = _ := congrArg Scene.asked (congrArg Prod.snd (run_bind ..))
  rw [connected] at splits
  cases client with
  | error e =>
    refine .inl ⟨splits.trans unasked, ?_⟩
    intro id connected
    cases connected
  | ok _ =>
    cases recorded : c.loadBalancerId? with
    | none =>
      simp only [recorded] at splits
      refine .inl ⟨splits.trans unasked, fun id _ records => ?_⟩
      rw [loadBalancerId?_eq_some.mpr records] at recorded
      cases recorded
    | some id =>
      simp only [recorded] at splits
      have sent : asked = if g.Admits .interruptible s'.instant then _ else _ :=
        splits.trans (asked_answer g unreadable (fun _ => rfl) s')
      rw [unasked] at sent
      split at sent
      next admitted =>
        exact .inr ⟨id, sent, rfl, loadBalancerId?_eq_some.mp recorded, admitted.1⟩
      next held =>
        refine .inl ⟨sent, fun _ _ _ => ?_⟩
        by_contra live
        refine held ⟨by simpa using live, ?_⟩
        intro patient
        cases patient

end Parts

/-- Nothing keeps a deleted cluster from going away. A cleanup of a cluster with its finalizer waits
for the next change, and the cluster is as it was but for this finalizer, which is off wherever it
was. The cloud is asked at most once, for the deletion of the load balancer that is recorded, and it
is asked exactly when there is a client by then and the guard is not cancelled. -/
theorem cleanUp_releases {κ : Type} (W : Surroundings κ) (g : Guard) (world : κ) (instant : Nat)
    (c : InfraCluster) (location : SecretLocation) (guarded : c.hasFinalizer finalizer = true) :
    let answer := W.answer (.under g none)
    let opening : Scene κ := { world, instant, log := [] }
    let ran := (c.cleanUp location).run answer opening
    let client := (Service.connect location).run answer opening
    let kept := c.metadata.finalizerList.filter (· != finalizer)
    ran.1 = ({ c with metadata.finalizers := some kept }, .ok .awaitChange) ∧
      ran.2.asked.length ≤ 1 ∧
      ∀ r, r ∈ ran.2.asked ↔ ∃ id, r = .deleteLoadBalancer id ∧ c.RecordsBalancer id ∧
        client.1 = .ok () ∧ g.isCancelled { instant := client.2.instant } = false := by
  intro answer opening ran client kept
  refine ⟨(yields_cleanUp guarded location).run _ _, ?_⟩
  have same : ran.2.asked = _ := asked_cleanUp guarded
  rw [same]
  have quiet : opening.asked = [] := rfl
  rcases asked_deleteLoadBalancer (c := c) quiet (Prod.mk.eta (p := client)).symm with
    ⟨unasked, idle⟩ | ⟨id, asked, connected, records, live⟩
  · rw [unasked]
    refine ⟨Nat.zero_le 1, fun r => iff_of_false List.not_mem_nil ?_⟩
    rintro ⟨id, -, records, connected, live⟩
    have cancelled := idle id connected records
    rw [live] at cancelled
    cases cancelled
  · rw [asked]
    refine ⟨Nat.le_refl 1, fun r => ?_⟩
    rw [List.mem_singleton]
    constructor
    · rintro rfl
      exact ⟨id, rfl, records, connected, live⟩
    · rintro ⟨id', rfl, records', -, -⟩
      have recorded := loadBalancerId?_eq_some.mpr records
      rw [loadBalancerId?_eq_some.mpr records'] at recorded
      rw [Option.some.inj recorded]

/-- A cloud that deletes no load balancer. -/
def stubbornCloud : Surroundings InstanceState :=
  { InfraMachine.sampleCloud with
    work
      | .deleteLoadBalancer id, _, state =>
        (.error (.api ("delete load balancer " ++ id) 500 "try again"), state)
      | r, instant, state => InfraMachine.sampleCloud.work r instant state }

/-- A deleted cluster with a load balancer, the finalizer of the controller twice and another
one. -/
def sampleDeleted : InfraCluster :=
  { InfraMachine.sampleInfraCluster with
    metadata := { finalizers := some [finalizer, "backup", finalizer] }
    status := some { loadBalancer := some { id := "lb-1" } } }

/-- The cluster goes although its deadline has passed and the load balancer stays. -/
theorem cleanUp_releases_of_sample :
    let ran := (sampleDeleted.cleanUp InfraMachine.sampleLocation).run
      (stubbornCloud.answer (.under { deadline := 0 } none))
      { world := .running, instant := 5, log := [] }
    sampleDeleted.hasFinalizer finalizer = true ∧
      ran.1.1.metadata.finalizers = some ["backup"] ∧ ran.1.2 = .ok .awaitChange ∧
      .deleteLoadBalancer "lb-1" ∈ ran.2.asked := by
  intro ran
  have guarded : sampleDeleted.hasFinalizer finalizer = true := by decide
  obtain ⟨ends, -, asked⟩ := cleanUp_releases stubbornCloud { deadline := 0 } .running 5
    sampleDeleted InfraMachine.sampleLocation guarded
  refine ⟨guarded, ?_, congrArg Prod.snd ends, ?_⟩
  · rw [ends]
    decide
  · exact (asked _).mpr ⟨"lb-1", rfl, ⟨_, _, rfl, rfl, rfl, by decide⟩, rfl, rfl⟩

/-- During a shutdown nothing is asked of the cloud, and the cluster goes all the same. -/
example :
    let ran := (sampleDeleted.cleanUp InfraMachine.sampleLocation).run
      (InfraMachine.sampleCloud.answer (.under { deadline := 1000, cancelled := true } none))
      { world := .running, instant := 0, log := [] }
    ran.1.1.hasFinalizer finalizer = false ∧ ran.2.asked = [] := by
  constructor <;> rfl

end MachineProvider.InfraCluster
