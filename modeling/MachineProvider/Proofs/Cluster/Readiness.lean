import MachineProvider.Cluster.Reconcile
import MachineProvider.Proofs.Condition
import MachineProvider.Proofs.Machine.Advance

/-!
# Ready clusters

A cluster becomes ready when a client for the cloud can be set up, and it stays ready: when no client
can be set up later, one condition says so and everything else is left as it was. `Advances` says what
a reconcile may make of a cluster, whatever the services answer. What a ready cluster has
(`IsEstablished`) and what is never replaced (`Extends`) follow for one reconcile and from there for
every sequence of them (`established_after`).
-/

namespace MachineProvider.InfraCluster

open Procedure

section Effects

variable (c : InfraCluster) (message clusterName : String) (now later : Timestamp)

/-- The cluster after a client could not be set up. -/
def disconnectedAt : InfraCluster :=
  c.mapStatus fun status => { status with
    conditions :=
      Condition.markFalse status.conditions Condition.networkInfrastructureReady
        Condition.clientFailed .error message now }

/-- The cluster reported as ready. -/
def readyAt : InfraCluster :=
  c.mapStatus fun status => { status with
    ready := true
    conditions :=
      Condition.markTrue
        (Condition.markTrue status.conditions Condition.networkInfrastructureReady now)
        Condition.loadBalancerReady later }

@[simp] theorem statusOrNew_mapStatus (change : ClusterStatus → ClusterStatus) :
    (c.mapStatus change).statusOrNew = change c.statusOrNew := rfl

@[simp] theorem isReady_disconnectedAt : (c.disconnectedAt message now).isReady = c.isReady := rfl

@[simp] theorem isReady_readyAt : (c.readyAt now later).isReady = true := rfl

@[simp] theorem isReady_pushFinalizer (name : String) :
    InfraCluster.isReady (c.pushFinalizer name) = c.isReady := rfl

@[simp] theorem metadata_fillEndpoint : (c.fillEndpoint clusterName).metadata = c.metadata := by
  unfold fillEndpoint
  split <;> rfl

@[simp] theorem statusOrNew_fillEndpoint :
    (c.fillEndpoint clusterName).statusOrNew = c.statusOrNew := by
  unfold fillEndpoint
  split <;> rfl

/-- Only the endpoint is filled in. -/
theorem spec_fillEndpoint : (c.fillEndpoint clusterName).spec =
    { c.spec with
      controlPlaneEndpoint := (c.fillEndpoint clusterName).spec.controlPlaneEndpoint } := by
  unfold fillEndpoint
  split <;> rfl

/-- An endpoint that is set is left as it is. -/
theorem fillEndpoint_of_set (set : c.spec.controlPlaneEndpoint.isZero = false) :
    c.fillEndpoint clusterName = c := by
  simp [fillEndpoint, set]

/-- Afterwards an endpoint is set, whatever the name of the cluster is. -/
theorem isZero_fillEndpoint :
    (c.fillEndpoint clusterName).spec.controlPlaneEndpoint.isZero = false := by
  unfold fillEndpoint
  split
  · simp [Endpoint.isZero, placeholderEndpoint, defaultPort]
  next set => simpa using set

/-- Afterwards there is a failure domain. -/
theorem isEmpty_fillNetwork : c.fillNetwork.statusOrNew.failureDomains.isEmpty = false := by
  simp only [fillNetwork, statusOrNew_mapStatus]
  split
  · rfl
  next filled => simpa using filled

/-- Failure domains that are there are left as they are. -/
theorem failureDomains_fillNetwork (filled : c.statusOrNew.failureDomains.isEmpty = false) :
    c.fillNetwork.statusOrNew.failureDomains = c.statusOrNew.failureDomains := by
  simp [fillNetwork, filled]

end Effects

/-- What a reconcile may make of a cluster. -/
inductive Advances (c : InfraCluster) : InfraCluster → Prop
  /-- The cluster did not have its finalizer. -/
  | guarded (bare : c.hasFinalizer finalizer = false) : Advances c (c.pushFinalizer finalizer)
  /-- No client for the cloud could be set up. -/
  | disconnected (guarded : c.hasFinalizer finalizer = true) (message : String) (now : Timestamp) :
    Advances c (c.disconnectedAt message now)
  /-- There is a client, and what was missing has been filled in. -/
  | established (guarded : c.hasFinalizer finalizer = true) (clusterName : String)
    (now later : Timestamp) :
    Advances c ((c.fillNetwork.fillEndpoint clusterName).readyAt now later)

/-- What becomes of a cluster that is reconciled, whatever the services answer. -/
theorem advances_reconcile (c : InfraCluster) (scope : ClusterScope) :
    (c.reconcile scope).Yields fun r => Advances c r.1 := by
  unfold reconcile
  cases guarded : c.hasFinalizer finalizer with
  | false => exact .guarded guarded
  | true =>
      apply (yields_of_forall (fun _ => trivial) (Service.connect scope.credentials)).bind
      rintro (e | ⟨⟩) -
      · exact fun now => .disconnected guarded e.message now
      · exact fun now later => .established guarded scope.clusterName now later

/-- Whether the condition on the network holds, or else says that no client could be set up. -/
def ReportsNetwork (c : InfraCluster) : Prop :=
  Condition.holds c.statusOrNew.conditions Condition.networkInfrastructureReady = true ∨
    ∃ condition, Condition.get? c.statusOrNew.conditions Condition.networkInfrastructureReady =
      some condition ∧ condition.status = "False" ∧ condition.reason = some Condition.clientFailed

/-- Whether a cluster has all that a ready cluster is to have. -/
structure IsEstablished (c : InfraCluster) : Prop where
  guarded : c.hasFinalizer finalizer = true
  network : c.statusOrNew.network.isSome = true
  divided : c.statusOrNew.failureDomains.isEmpty = false
  reachable : c.spec.controlPlaneEndpoint.isZero = false
  balanced : Condition.holds c.statusOrNew.conditions Condition.loadBalancerReady = true
  reported : c.ReportsNetwork

/-- Whether nothing that one version of a cluster records is replaced in another one, and nothing
else is touched. -/
structure Extends (o c : InfraCluster) : Prop where
  ready : c.isReady = true → o.isReady = true
  network : ∀ network, c.statusOrNew.network = some network → o.statusOrNew.network = some network
  failureDomains : c.statusOrNew.failureDomains.isEmpty = false →
    o.statusOrNew.failureDomains = c.statusOrNew.failureDomains
  endpoint : c.spec.controlPlaneEndpoint.isZero = false →
    o.spec.controlPlaneEndpoint = c.spec.controlPlaneEndpoint
  spec : o.spec = { c.spec with controlPlaneEndpoint := o.spec.controlPlaneEndpoint }
  metadata : o.metadata = { c.metadata with finalizers := o.metadata.finalizers }

section Steps

variable {c o v : InfraCluster}

theorem Extends.refl (c : InfraCluster) : c.Extends c where
  ready := id
  network _ := id
  failureDomains _ := rfl
  endpoint _ := rfl
  spec := rfl
  metadata := rfl

theorem Extends.trans (h' : v.Extends o) (h : o.Extends c) : v.Extends c where
  ready := h'.ready ∘ h.ready
  network network set := h'.network network (h.network network set)
  failureDomains filled := by
    have same := h.failureDomains filled
    rw [h'.failureDomains (by rw [same, filled]), same]
  endpoint set := by
    have same := h.endpoint set
    rw [h'.endpoint (by rw [same, set]), same]
  spec := by rw [h'.spec, h.spec]
  metadata := by rw [h'.metadata, h.metadata]

/-- A reconcile replaces nothing that is recorded. -/
theorem Advances.extends (advances : Advances c o) : o.Extends c := by
  cases advances with
  | guarded bare => exact ⟨id, fun _ => id, fun _ => rfl, fun _ => rfl, rfl, rfl⟩
  | disconnected guarded message now =>
      exact ⟨id, fun _ => id, fun _ => rfl, fun _ => rfl, rfl, rfl⟩
  | established guarded clusterName now later =>
      constructor
      · simp
      · intro network recorded
        simp [readyAt, fillNetwork, recorded]
      · intro filled
        simpa [readyAt] using failureDomains_fillNetwork c filled
      · intro set
        have same := fillEndpoint_of_set c.fillNetwork clusterName set
        exact congrArg (·.spec.controlPlaneEndpoint) same
      · exact spec_fillEndpoint c.fillNetwork clusterName
      · have same : ((c.fillNetwork.fillEndpoint clusterName).readyAt now later).metadata =
            c.metadata := metadata_fillEndpoint c.fillNetwork clusterName
        rw [same]

/-- A client that cannot be set up takes nothing away from an established cluster. -/
theorem IsEstablished.disconnectedAt (h : c.IsEstablished) (message : String) (now : Timestamp) :
    (c.disconnectedAt message now).IsEstablished where
  guarded := h.guarded
  network := h.network
  divided := h.divided
  reachable := h.reachable
  balanced := by
    have other : Condition.loadBalancerReady ≠ Condition.networkInfrastructureReady := by decide
    exact (Condition.holds_markFalse_of_ne _ _ _ _ _ now other).trans h.balanced
  reported := by
    obtain ⟨time, found⟩ := Condition.get?_markFalse c.statusOrNew.conditions
      Condition.networkInfrastructureReady Condition.clientFailed message .error now
    exact .inr ⟨_, found, rfl, rfl⟩

/-- A cluster that is filled in and reported as ready is established. -/
theorem isEstablished_readyAt (guarded : c.hasFinalizer finalizer = true) (clusterName : String)
    (now later : Timestamp) :
    ((c.fillNetwork.fillEndpoint clusterName).readyAt now later).IsEstablished where
  guarded := by
    have same : (c.fillNetwork.fillEndpoint clusterName).metadata = c.metadata :=
      metadata_fillEndpoint _ _
    exact (congrArg (·.finalizerList.contains finalizer) same).trans guarded
  network := by simp [readyAt, fillNetwork]
  divided := by simpa [readyAt] using isEmpty_fillNetwork c
  reachable := isZero_fillEndpoint c.fillNetwork clusterName
  balanced := Condition.holds_markTrue ..
  reported := by
    have other : Condition.networkInfrastructureReady ≠ Condition.loadBalancerReady := by decide
    refine .inl ((Condition.holds_markTrue_of_ne _ _ later other).trans ?_)
    exact Condition.holds_markTrue ..

/-- If a cluster has what a ready one is to have whenever it is ready, it still does after a
reconcile. -/
theorem Advances.isEstablished (advances : Advances c o)
    (h : c.isReady = true → c.IsEstablished) (ready : o.isReady = true) : o.IsEstablished := by
  cases advances with
  | guarded bare =>
      have guarded := (h ready).guarded
      rw [bare] at guarded
      cases guarded
  | disconnected guarded message now => exact (h ready).disconnectedAt message now
  | established guarded clusterName now later =>
      exact isEstablished_readyAt guarded clusterName now later

end Steps

/-- One reconcile of a cluster: the world in which it takes place, its guard, and what the owner of
the cluster says. -/
structure Turn where
  World : Type
  surroundings : Surroundings World
  guard : Guard
  world : World
  /-- The instant at which the reconcile starts. -/
  instant : Nat
  scope : ClusterScope

/-- The cluster after the reconcile, whatever its result. -/
def Turn.next (t : Turn) (c : InfraCluster) : InfraCluster :=
  ((c.reconcile t.scope).run (t.surroundings.answer (.under t.guard none))
    { world := t.world, instant := t.instant, log := [] }).1.1

theorem Turn.advances (t : Turn) (c : InfraCluster) : Advances c (t.next c) :=
  (advances_reconcile c t.scope).run _ _

/-- The cluster after a sequence of reconciles. -/
def after (c : InfraCluster) (turns : List Turn) : InfraCluster :=
  turns.foldl (fun c t => t.next c) c

theorem after_append (c : InfraCluster) (earlier later : List Turn) :
    c.after (earlier ++ later) = (c.after earlier).after later :=
  List.foldl_append

/-- A sequence of reconciles replaces nothing that is recorded. -/
theorem extends_after (c : InfraCluster) (turns : List Turn) : (c.after turns).Extends c := by
  induction turns generalizing c with
  | nil => exact .refl c
  | cons t rest ih => exact (ih (t.next c)).trans (t.advances c).extends

/-- A sequence of reconciles leaves a cluster that is ready only with all that it is to have. -/
theorem isEstablished_after {c : InfraCluster} (h : c.isReady = true → c.IsEstablished)
    (turns : List Turn) (ready : (c.after turns).isReady = true) : (c.after turns).IsEstablished := by
  induction turns generalizing c with
  | nil => exact h ready
  | cons t rest ih => exact ih ((t.advances c).isEstablished h) ready

/-- However often a cluster that is not ready at first is reconciled, and however the reconciles
end, it has all that a ready cluster is to have whenever it is ready. From each point of the sequence
to each later one nothing that is recorded is replaced. -/
theorem established_after {c : InfraCluster} (unready : c.isReady = false)
    (earlier later : List Turn) :
    ((c.after earlier).isReady = true → (c.after earlier).IsEstablished) ∧
      (c.after (earlier ++ later)).Extends (c.after earlier) := by
  have start : c.isReady = true → c.IsEstablished := by
    intro ready
    rw [unready] at ready
    cases ready
  constructor
  · exact isEstablished_after start earlier
  · rw [after_append]
    exact extends_after (c.after earlier) later

/-- A reconcile of the cluster of the sample machine, possibly during a shutdown. -/
def sampleTurn (cancelled : Bool) : Turn where
  World := InstanceState
  surroundings := InfraMachine.sampleCloud
  guard := { deadline := 1000, cancelled }
  world := .running
  instant := 0
  scope :=
    { clusterName := "training", «namespace» := "default"
      credentials := { «namespace» := "default", name := "datacrunch-credentials" } }

/-- The cluster gets its finalizer and becomes ready, and stays so when the next reconcile is cut off
before it has a client. -/
theorem established_after_of_sample :
    let ready := InfraMachine.sampleInfraCluster.after [sampleTurn false, sampleTurn false]
    let disconnected := InfraMachine.sampleInfraCluster.after
      ([sampleTurn false, sampleTurn false] ++ [sampleTurn true])
    InfraMachine.sampleInfraCluster.isReady = false ∧ ready.IsEstablished ∧
      disconnected.isReady = true ∧
      disconnected.spec.controlPlaneEndpoint = placeholderEndpoint "training" ∧
      Condition.holds disconnected.statusOrNew.conditions Condition.networkInfrastructureReady =
        false := by
  intro ready disconnected
  have unready : InfraMachine.sampleInfraCluster.isReady = false := rfl
  obtain ⟨established, extends'⟩ :=
    established_after unready [sampleTurn false, sampleTurn false] [sampleTurn true]
  have isReady : ready.isReady = true := rfl
  exact ⟨unready, established isReady, extends'.ready isReady,
    extends'.endpoint (established isReady).reachable, Condition.holds_markFalse ..⟩

end MachineProvider.InfraCluster
