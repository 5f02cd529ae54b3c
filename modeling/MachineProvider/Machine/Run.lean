import MachineProvider.Controller.Conclude
import MachineProvider.Machine.Reconcile

/-!
# Running the controller for a machine

A run reads the machine and its owners, reconciles it or cleans up after it, and writes it back. A
write that records a new instance and comes too late, because somebody else changed the machine
meanwhile, is repeated on the latest version of the machine, so that the instance is not lost.
-/

namespace MachineProvider

/-- The owners of an infrastructure machine. -/
structure Owners where
  machine : ClusterApi.Machine
  cluster : ClusterApi.Cluster
  infraCluster : InfraCluster

/-- What the owners of a machine say about it. -/
def MachineScope.ofOwners (owners : Owners) («namespace» : String) (config : Config) :
    MachineScope where
  clusterName := owners.cluster.metadata.anyName
  machineName := owners.machine.metadata.anyName
  «namespace»
  region := owners.infraCluster.spec.region
  infrastructureReady := owners.cluster.infrastructureReady
  bootstrapDataSecret := owners.machine.spec.bootstrap.dataSecretName
  credentials := .ofCluster owners.infraCluster config

namespace InfraMachine

open Controller

/-- The infrastructure cluster of a machine, and with it all owners. -/
def ownersFrom (machine : ClusterApi.Machine) (cluster : ClusterApi.Cluster)
    («namespace» : String) : Controller (Except Error (Option Owners)) := do
  match cluster.infrastructureName? InfraCluster.type.kind with
  | none => return .ok none
  | some name =>
    match ← fetchOptional .infraCluster «namespace» name with
    | .error e => return .error e
    | .ok none => return .ok none
    | .ok (some infraCluster) => return .ok (some { machine, cluster, infraCluster })

/-- The cluster of a machine, and from there all owners. -/
def ownersOfMachine (machine : ClusterApi.Machine) («namespace» : String) :
    Controller (Except Error (Option Owners)) := do
  match machine.clusterName? with
  | none => return .ok none
  | some name =>
    match ← fetchOptional .cluster «namespace» name with
    | .error e => return .error e
    | .ok none => return .ok none
    | .ok (some cluster) => ownersFrom machine cluster «namespace»

/-- The owners of an infrastructure machine: the machine that owns it, its cluster, and the
infrastructure cluster of that. None when one of them is missing. -/
def owners (m : InfraMachine) («namespace» : String) :
    Controller (Except Error (Option Owners)) := do
  match ClusterApi.ownerName? m.metadata ClusterApi.Machine.type.kind with
  | none => return .ok none
  | some name =>
    match ← fetchOptional .machine «namespace» name with
    | .error e => return .error e
    | .ok none => return .ok none
    | .ok (some machine) => ownersOfMachine machine «namespace»

/-- Whether a provider ID was recorded between two versions of a machine. -/
def isNewlyStamped (before after : InfraMachine) : Bool :=
  before.spec.providerId.isNone && after.spec.providerId.isSome

/-- The latest version of a machine with the provider ID, the finalizer and the status of another
version. Nothing when the latest version names another instance, or the other version none. -/
def rebase? (latest stamped : InfraMachine) : Option InfraMachine :=
  match latest.spec.providerId, stamped.spec.providerId with
  | _, none => none
  | stored, some created =>
    if stored.isSome && stored != some created then none
    else
      let rebased := { latest with spec.providerId := some created }
      let rebased :=
        if stamped.hasFinalizer finalizer then rebased.addFinalizer finalizer else rebased
      some { rebased with status := stamped.status }

/-- Writes the record of a new instance onto the latest version of its machine. -/
def writeOnLatest («namespace» name : String) (stamped : InfraMachine) :
    Controller (Except Error Unit) := do
  match ← fetch .infraMachine «namespace» name with
  | .error e => return .error e
  | .ok latest =>
    match rebase? latest stamped with
    | none =>
      return .error (.providerIdConflict (latest.spec.providerId.getD "")
        (stamped.spec.providerId.getD ""))
    | some rebased => write .infraMachine «namespace» latest rebased

/-- Whether a write was rejected because the object had changed. -/
def isConflict : Except Error Unit → Bool
  | .error e => e.isConflict
  | .ok () => false

/-- Writes a reconciled machine back, and if need be once more onto its latest version. -/
def writeBack («namespace» name : String) (before after : InfraMachine) :
    Controller (Except Error Unit) := do
  let written ← write .infraMachine «namespace» before after
  if isConflict written && isNewlyStamped before after then
    writeOnLatest «namespace» name after
  else return written

/-- Writes a reconciled machine back and ends the run. -/
def finish («namespace» name : String) (before : InfraMachine)
    (reconciled : InfraMachine × Except Error Action) : Controller Run := do
  let written ← writeBack «namespace» name before reconciled.1
  conclude .infraMachine «namespace» name reconciled.2 written

/-- Goes on with a machine that is not paused. -/
def runWithOwners («namespace» name : String) (before : InfraMachine) (owners : Option Owners)
    (config : Config) (gzip : Gzip.Compressor) : Controller Run :=
  .ask (.startGuard config.reconcileTimeout) fun started => do
    if !started then return .crashed
    else if before.metadata.isDeleted then
      let credentials := owners.map fun o => SecretLocation.ofCluster o.infraCluster config
      finish «namespace» name before (← ofService (before.cleanUp credentials config))
    else
      match owners with
      | none => return .finished (.ok .awaitChange)
      | some o =>
        let scope := MachineScope.ofOwners o «namespace» config
        finish «namespace» name before (← ofService (before.reconcile scope config gzip))

/-- Whether the cluster of a machine, if it is known, says that the work is paused. -/
def isPausedBy (machine : InfraMachine) : Option Owners → Bool
  | some o => ClusterApi.isPaused o.cluster machine.metadata
  | none => false

/-- One run of the controller for the machine with a name in a namespace. The API server is asked
for the machine, since what is known of it may be out of date. -/
def run («namespace» : Option String) (name : String) (config : Config)
    (gzip : Gzip.Compressor) : Controller Run := do
  match «namespace» with
  | none => return .finished (.error .missingObjectKey)
  | some here =>
    match ← fetchOptional .infraMachine here name with
    | .error e => return .finished (.error e)
    | .ok none => return .finished (.ok .awaitChange)
    | .ok (some before) =>
      match ← owners before here with
      | .error e => return .finished (.error e)
      | .ok known =>
        if isPausedBy before known then return .finished (.ok .awaitChange)
        else runWithOwners here name before known config gzip

end InfraMachine

end MachineProvider
