import MachineProvider.Action
import MachineProvider.Cluster
import MachineProvider.Service

/-!
# Reconciling clusters

The provider has no private networks and no load balancers, so the infrastructure of a cluster is
ready once its credentials give a client: its network is recorded as empty, it has one failure
domain, and its endpoint is a name made from the name of the cluster. Nothing that is already
recorded is replaced. A deleted cluster is let go whatever the cloud answers.
-/

namespace MachineProvider

/-- What the owner of a cluster says about it. -/
structure ClusterScope where
  clusterName : String
  «namespace» : String
  credentials : SecretLocation
  deriving DecidableEq, Repr, Inhabited

namespace InfraCluster

/-- The name of the failure domain of a cluster that has no others. -/
def defaultFailureDomain : String := "default"

/-- The port of the API server at an endpoint that the controller fills in. -/
def defaultPort : Int32 := 6443

/-- The endpoint of a cluster that names none itself. -/
def placeholderEndpoint (clusterName : String) : Endpoint where
  host := "cluster-" ++ clusterName ++ ".datacrunch.local"
  port := defaultPort

/-- Records an empty network and one failure domain where nothing is recorded. -/
def fillNetwork (cluster : InfraCluster) : InfraCluster :=
  cluster.mapStatus fun status => { status with
    network := some (status.network.getD {})
    failureDomains :=
      if status.failureDomains.isEmpty then
        Dictionary.empty.insert defaultFailureDomain { controlPlane := true }
      else status.failureDomains }

/-- Fills in the endpoint of a cluster that has none. -/
def fillEndpoint (cluster : InfraCluster) (clusterName : String) : InfraCluster :=
  if cluster.spec.controlPlaneEndpoint.isZero then
    { cluster with spec.controlPlaneEndpoint := placeholderEndpoint clusterName }
  else cluster

/-- Reports a cluster as ready. -/
def markReady (cluster : InfraCluster) : Service InfraCluster := do
  let networkTime ← Service.now
  let balancerTime ← Service.now
  return cluster.mapStatus fun status => { status with
    ready := true
    conditions :=
      Condition.markTrue
        (Condition.markTrue status.conditions Condition.networkInfrastructureReady networkTime)
        Condition.loadBalancerReady balancerTime }

/-- Brings the infrastructure of a cluster up. -/
def reconcile (cluster : InfraCluster) (scope : ClusterScope) :
    Service (InfraCluster × Except Error Action) := do
  if !cluster.hasFinalizer finalizer then
    return (cluster.pushFinalizer finalizer, .ok .awaitChange)
  else
    match ← Service.connect scope.credentials with
    | .error e =>
      let now ← Service.now
      let cluster := cluster.mapStatus fun status => { status with
        conditions :=
          Condition.markFalse status.conditions Condition.networkInfrastructureReady
            Condition.clientFailed .error e.message now }
      return (cluster, .error e)
    | .ok () =>
      let cluster ← (cluster.fillNetwork.fillEndpoint scope.clusterName).markReady
      return (cluster, .ok .awaitChange)

/-- Takes down the load balancer of a deleted cluster, if one is recorded and a client can be set
up. Whether that succeeds does not matter. -/
def deleteLoadBalancer (cluster : InfraCluster) (credentials : SecretLocation) : Service Unit := do
  match ← Service.connect credentials with
  | .error _ => return ()
  | .ok () =>
    match cluster.loadBalancerId? with
    | none => return ()
    | some id => discard (Service.call (.deleteLoadBalancer id))

/-- Takes down what a deleted cluster has in the cloud and lets the cluster go. -/
def cleanUp (cluster : InfraCluster) (credentials : SecretLocation) :
    Service (InfraCluster × Except Error Action) := do
  if !cluster.hasFinalizer finalizer then return (cluster, .ok .awaitChange)
  else
    cluster.deleteLoadBalancer credentials
    return (cluster.removeFinalizer finalizer, .ok .awaitChange)

end InfraCluster

end MachineProvider
