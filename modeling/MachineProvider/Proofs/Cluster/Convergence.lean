import MachineProvider.Controller.Write
import MachineProvider.Proofs.Cluster.Readiness
import MachineProvider.Proofs.Machine.Convergence
import MachineProvider.Proofs.Marking

/-!
# Converged clusters

Every change of a cluster's status brings the cluster back to the controller, so a reconcile that
changed something each time would never come to rest. One reconcile is enough for a cluster to be
`Settled`: it says what the replies of the services have to say about it. A further reconcile that
gets the same replies marks the same conditions and finds nothing to fill in (`Settled.keeps`), so it
changes nothing, whatever the clock shows.
-/

namespace MachineProvider.InfraCluster

open Procedure

section Effects

variable (c : InfraCluster) (message : String) (now later now' later' : Timestamp)

/-- Reporting again that no client can be set up changes nothing. -/
theorem disconnectedAt_disconnectedAt :
    (c.disconnectedAt message now).disconnectedAt message later = c.disconnectedAt message now := by
  simp only [disconnectedAt, mapStatus, statusOrNew, Option.getD_some,
    Condition.markFalse_markFalse]

/-- Reporting a cluster as ready again changes nothing. -/
theorem readyAt_readyAt : (c.readyAt now later).readyAt now' later' = c.readyAt now later := by
  have differ : Condition.networkInfrastructureReady ≠ Condition.loadBalancerReady := by decide
  -- The condition on the network was not the last one to be marked, so it is marked again below the
  -- one on the load balancer.
  simp only [readyAt, mapStatus, statusOrNew, Option.getD_some, Condition.markTrue_markTrue,
    ← Condition.markTrue_comm _ _ differ]

/-- There is nothing to fill in for an established cluster. -/
theorem IsEstablished.filled {c : InfraCluster} (h : c.IsEstablished) (clusterName : String) :
    c.fillNetwork.fillEndpoint clusterName = c := by
  obtain ⟨network, recorded⟩ := Option.isSome_iff_exists.mp h.network
  have kept : some (c.statusOrNew.network.getD {}) = c.statusOrNew.network := by
    rw [recorded]
    rfl
  have present : some c.statusOrNew = c.status := by
    cases status : c.status with
    | none => simp [statusOrNew, status] at recorded
    | some _ => simp [statusOrNew, status]
  have unchanged : c.fillNetwork = c := by
    calc c.fillNetwork = { c with status := some c.statusOrNew } := by
          simp only [fillNetwork, mapStatus, kept, h.divided]
          rfl
      _ = c := by rw [present]
  rw [unchanged, fillEndpoint_of_set c clusterName h.reachable]

end Effects

section Reconcile

variable {R : Replies} {c : InfraCluster} {r : InfraCluster × Except Error Action}
  {scope : ClusterScope} {s : List (Outcome CloudError Instance)}

/-- Whether a reconcile ended with a cluster that says all that the replies have to say about it. -/
inductive Settled (R : Replies) (scope : ClusterScope) : InfraCluster × Except Error Action → Prop
  | disconnected {e : Error} (refused : R.Gives (Service.connect scope.credentials) (.error e))
    (c : InfraCluster) (now : Timestamp) :
    Settled R scope (c.disconnectedAt e.message now, .error e)
  | established (connects : R.Gives (Service.connect scope.credentials) (.ok ()))
    {c : InfraCluster} {now later : Timestamp} (established : (c.readyAt now later).IsEstablished) :
    Settled R scope (c.readyAt now later, .ok .awaitChange)

/-- How the reconcile of a cluster with its finalizer ends, when the replies decide whether there is
a client. -/
theorem follows_reconcile {post : InfraCluster × Except Error Action → Prop}
    {client : Except Error Unit} (guarded : c.hasFinalizer finalizer = true)
    (gives : R.Gives (Service.connect scope.credentials) client)
    (suits : match client with
      | .error e => ∀ now, post (c.disconnectedAt e.message now, .error e)
      | .ok () => ∀ now later,
        post ((c.fillNetwork.fillEndpoint scope.clusterName).readyAt now later, .ok .awaitChange)) :
    (c.reconcile scope).Follows R.replaying (fun r _ => post r) s := by
  unfold reconcile
  rw [guarded]
  apply gives.bind
  cases client with
  | error e => exact ⟨trivial, fun now _ => suits now⟩
  | ok _ => exact ⟨trivial, fun now _ => ⟨trivial, fun later _ => suits now later⟩⟩

/-- Every reconcile of a cluster with its finalizer settles it. -/
theorem settles_reconcile (guarded : c.hasFinalizer finalizer = true) :
    (c.reconcile scope).Follows R.replaying (fun r _ => Settled R scope r) s := by
  obtain ⟨client, gives⟩ := R.determines_connect scope.credentials
  apply follows_reconcile guarded gives
  cases client with
  | error e => exact fun now => .disconnected gives c now
  | ok _ =>
      exact fun now later =>
        .established gives (isEstablished_readyAt guarded scope.clusterName now later)

/-- A reconcile of a settled cluster ends as the one before and changes nothing. -/
theorem Settled.keeps (h : Settled R scope r) (guarded : r.1.hasFinalizer finalizer = true) :
    (r.1.reconcile scope).Follows R.replaying (fun r' _ => r' = r) s := by
  cases h with
  | disconnected refused c now =>
      apply follows_reconcile guarded refused
      intro now'
      rw [disconnectedAt_disconnectedAt]
  | established connects established =>
      apply follows_reconcile guarded connects
      intro now' later'
      rw [established.filled, readyAt_readyAt]

/-- A cluster with its finalizer keeps it. -/
theorem Advances.hasFinalizer {o : InfraCluster} (h : Advances c o)
    (guarded : c.hasFinalizer finalizer = true) : o.hasFinalizer finalizer = true := by
  cases h with
  | guarded bare => exact absurd guarded (by simp [bare])
  | disconnected _ message now => exact guarded
  | established _ clusterName now later =>
      exact (isEstablished_readyAt guarded clusterName now later).guarded

end Reconcile

namespace Turn

/-- The whole of a reconcile: the cluster afterwards with the result, and the scene at the end. -/
def run (t : Turn) (c : InfraCluster) : (InfraCluster × Except Error Action) × Scene t.World :=
  (c.reconcile t.scope).run (t.surroundings.answer (.under t.guard none))
    { world := t.world, instant := t.instant, log := [] }

/-- Whether the replies explain all answers in a reconcile. -/
def IsExplained (t : Turn) (c : InfraCluster) (R : Replies) : Prop :=
  ∀ x ∈ (t.run c).2.log, R.Explains x

/-- When two reconciles of a cluster with its finalizer get the same replies, for the same scope,
the second one leaves the cluster exactly as it is, whatever the clock shows in either of them. There
is nothing to write, and both have the same result. -/
theorem next_again {R : Replies} {first second : Turn} {c : InfraCluster}
    (scope : second.scope = first.scope) (guarded : c.hasFinalizer finalizer = true)
    (explained : first.IsExplained c R) (explained' : second.IsExplained (first.next c) R) :
    second.next (first.next c) = first.next c ∧
      (@WritePlan.between .infraCluster (first.next c) (second.next (first.next c))).isNoop = true ∧
      (second.run (first.next c)).1.2 = (first.run c).1.2 := by
  have settled : Settled R second.scope (first.run c).1 := by
    rw [scope]
    exact Replies.run_explained (settles_reconcile guarded) explained
  have kept : (second.run (first.next c)).1 = (first.run c).1 :=
    Replies.run_explained (settled.keeps ((first.advances c).hasFinalizer guarded)) explained'
  have same : second.next (first.next c) = first.next c := congrArg Prod.fst kept
  refine ⟨same, ?_, congrArg Prod.snd kept⟩
  rw [same]
  simp [WritePlan.between, WritePlan.isNoop]

end Turn

/-- A reconcile of the cluster a second later. -/
def laterTurn : Turn :=
  { sampleTurn false with
    surroundings :=
      { InfraMachine.sampleCloud with clock := fun _ _ => { seconds := 1, nanos := 0 } } }

/-- The cluster becomes ready, and a second later nothing changes. -/
theorem Turn.next_again_of_sample :
    let guarded := InfraMachine.sampleInfraCluster.pushFinalizer finalizer
    let ready := (sampleTurn false).next guarded
    guarded.hasFinalizer finalizer = true ∧ ready.isReady = true ∧ laterTurn.next ready = ready := by
  intro guarded ready
  have bound : guarded.hasFinalizer finalizer = true := by decide
  have explained : (sampleTurn false).IsExplained guarded (InfraMachine.sampleReplies .running) :=
    List.forall_mem_cons.mpr ⟨trivial, List.forall_mem_cons.mpr ⟨trivial,
      List.forall_mem_cons.mpr ⟨rfl, List.forall_mem_singleton.mpr rfl⟩⟩⟩
  have explained' : laterTurn.IsExplained ready (InfraMachine.sampleReplies .running) :=
    List.forall_mem_cons.mpr ⟨trivial, List.forall_mem_cons.mpr ⟨trivial,
      List.forall_mem_cons.mpr ⟨rfl, List.forall_mem_singleton.mpr rfl⟩⟩⟩
  have scope : laterTurn.scope = (sampleTurn false).scope := rfl
  exact ⟨bound, rfl, (Turn.next_again scope bound explained explained').1⟩

end MachineProvider.InfraCluster
