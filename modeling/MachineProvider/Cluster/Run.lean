import MachineProvider.Cluster.Reconcile
import MachineProvider.Controller.Conclude

/-!
# Running the controller for a cluster

A run reads the infrastructure cluster and the cluster that owns it, reconciles it or cleans up
after it, and writes it back.
-/

namespace MachineProvider.InfraCluster

open Controller

/-- The cluster that owns an infrastructure cluster, if there is one. -/
def owner (c : InfraCluster) («namespace» : String) :
    Controller (Except Error (Option ClusterApi.Cluster)) :=
  match ClusterApi.ownerName? c.metadata ClusterApi.Cluster.type.kind with
  | none => return .ok none
  | some name => fetchOptional .cluster «namespace» name

/-- Writes a reconciled cluster back and ends the run. -/
def finish («namespace» name : String) (before : InfraCluster)
    (reconciled : InfraCluster × Except Error Action) : Controller Run := do
  let written ← write .infraCluster «namespace» before reconciled.1
  conclude .infraCluster «namespace» name reconciled.2 written

/-- Goes on with a cluster that is not paused. -/
def runWithOwner («namespace» name : String) (before : InfraCluster)
    (owner : Option ClusterApi.Cluster) (config : Config) : Controller Run :=
  let credentials := SecretLocation.ofCluster before config
  .ask (.startGuard config.reconcileTimeout) fun started => do
    if !started then return .crashed
    else if before.metadata.isDeleted then
      finish «namespace» name before (← ofService (before.cleanUp credentials))
    else
      match owner with
      | none => return .finished (.ok .awaitChange)
      | some cluster =>
        let scope : ClusterScope :=
          { clusterName := cluster.metadata.anyName, «namespace», credentials }
        finish «namespace» name before (← ofService (before.reconcile scope))

/-- Whether the owner of a cluster, if it is known, says that the work is paused. -/
def isPausedBy (cluster : InfraCluster) : Option ClusterApi.Cluster → Bool
  | some owner => ClusterApi.isPaused owner cluster.metadata
  | none => false

/-- One run of the controller for the cluster with a name in a namespace. -/
def run («namespace» : Option String) (name : String) (config : Config) : Controller Run := do
  match «namespace» with
  | none => return .finished (.error .missingObjectKey)
  | some here =>
    match ← fetchOptional .infraCluster here name with
    | .error e => return .finished (.error e)
    | .ok none => return .finished (.ok .awaitChange)
    | .ok (some before) =>
      match ← owner before here with
      | .error e => return .finished (.error e)
      | .ok known =>
        if isPausedBy before known then return .finished (.ok .awaitChange)
        else runWithOwner here name before known config

end MachineProvider.InfraCluster
