import MachineProvider.Action
import MachineProvider.Machine.Launch

/-!
# Reconciling machines

`InfraMachine.reconcile` takes a machine one step towards a running instance, and
`InfraMachine.cleanUp` takes the instance of a deleted machine down. Both give back the machine as
it is to be stored, also when they fail, so that what was learned before a failure is kept. A
machine has its finalizer before anything is created for it, and a provider ID, once recorded, is
not replaced.
-/

namespace MachineProvider.InfraMachine

/-- Says that the instance of a machine is not ready, and why. -/
def markNotReady (machine : InfraMachine) (reason : String) (severity : Severity)
    (message : String) : Service InfraMachine := do
  let now ← Service.now
  return machine.mapStatus fun status => { status with
    conditions :=
      Condition.markFalse status.conditions Condition.instanceReady reason severity message now }

/-- The reason that is recorded for a final failure. -/
def updateError : String := "UpdateError"

/-- Records a failure that is final. -/
def recordFailure (machine : InfraMachine) (message : String) : Service InfraMachine := do
  let now ← Service.now
  return machine.mapStatus fun status => { status with
    ready := false
    failureReason := some updateError
    failureMessage := some message
    conditions :=
      Condition.markFalse status.conditions Condition.instanceReady Condition.instanceTerminated
        .error message now }

/-- Reports that the instance of a machine is running. -/
def markRunning (machine : InfraMachine) (found : Instance) : Service InfraMachine := do
  let now ← Service.now
  return machine.mapStatus fun status => { status with
    ready := true
    addresses := MachineAddress.ofInstance found
    conditions := Condition.markTrue status.conditions Condition.instanceReady now }

/-- The event about what was done with the instance of a machine. -/
def event (machine : InfraMachine) (reason action note : String) : Event where
  regarding := type.reference machine.metadata
  type := .normal
  reason
  action
  note

/-- Creates the instance of a machine and records its ID. -/
def create (machine : InfraMachine) (scope : MachineScope) (config : Config)
    (gzip : Gzip.Compressor) : Service (InfraMachine × Except Error Instance) := do
  match ← machine.launch scope config.defaultImage gzip with
  | .ok created =>
    let machine := machine.stampProviderId (ProviderId.ofInstance created.id)
    Service.publish (machine.event Event.instanceCreated "Create"
      ("Created new DataCrunch instance " ++ created.id))
    let machine ← machine.markNotReady Condition.instanceNotReady .info ""
    return (machine, .ok created)
  | .error e =>
    let machine ← machine.markNotReady Condition.instanceCreationFailed .error e.message
    return (machine, .error e)

/-- Records the state of an instance in the status of its machine. -/
def recordState (machine : InfraMachine) (state : InstanceState) : InfraMachine :=
  machine.mapStatus fun status => { status with instanceState := some state }

/-- Reports what was observed of the instance of a machine, and says when to look again. -/
def project (machine : InfraMachine) (found : Instance) (config : Config) :
    Service (InfraMachine × Except Error Action) := do
  let machine := machine.recordState found.state
  let again : Except Error Action := .ok (.requeue config.requeueInterval)
  match found.state with
  | .running =>
    let machine ← machine.markRunning found
    return (machine, .ok (.requeue config.syncPeriod))
  | .pending =>
    let machine ← machine.markNotReady Condition.instanceNotReady .info "Instance is pending"
    return (machine, again)
  | .stopped =>
    match ← Service.call (.startInstance found.id) with
    | .ok () => return (machine, again)
    | .error e => return (machine, .error (.requeue e config.requeueInterval))
  | .terminated =>
    let machine ← machine.recordFailure "Instance was terminated"
    return (machine, .ok .awaitChange)
  | other =>
    let machine ← machine.markNotReady Condition.instanceNotReady .warning
      ("Instance is in unknown state: " ++ other.word)
    return (machine, again)

/-- Records the ID of an instance unless there is one already, and reports what was observed. -/
def settle (machine : InfraMachine) (found : Instance) (config : Config) :
    Service (InfraMachine × Except Error Action) :=
  (machine.stampProviderId (ProviderId.ofInstance found.id)).project found config

/-- Goes on with a machine once there is a client for the cloud: finds its instance, or creates one
if there has never been one. An instance that is gone is a final failure, since the provider ID of
another could not be recorded. -/
def converge (machine : InfraMachine) (scope : MachineScope) (config : Config)
    (gzip : Gzip.Compressor) : Service (InfraMachine × Except Error Action) := do
  match ← machine.findInstance with
  | .error e => return (machine, .error e)
  | .ok (some found) => machine.settle found config
  | .ok none =>
    match machine.spec.providerId with
    | some providerId =>
      let machine ← machine.recordFailure ("Instance " ++ providerId ++ " no longer exists")
      return (machine, .ok .awaitChange)
    | none =>
      match ← machine.create scope config gzip with
      | (machine, .error e) => return (machine, .error e)
      | (machine, .ok created) => machine.settle created config

/-- Takes a machine one step towards a running instance. -/
def reconcile (machine : InfraMachine) (scope : MachineScope) (config : Config)
    (gzip : Gzip.Compressor := Gzip.encode) : Service (InfraMachine × Except Error Action) := do
  if machine.isFailed then return (machine, .ok .awaitChange)
  else if !machine.hasFinalizer finalizer then
    return (machine.pushFinalizer finalizer, .ok .awaitChange)
  else if !scope.infrastructureReady then
    let machine ← machine.markNotReady Condition.waitingForClusterInfrastructure .info ""
    return (machine, .ok .awaitChange)
  else if scope.bootstrapDataSecret.isNone then
    let machine ← machine.markNotReady Condition.waitingForBootstrapData .info ""
    return (machine, .ok .awaitChange)
  else
    match ← Service.connect scope.credentials with
    | .error e =>
      let machine ← machine.markNotReady Condition.clientFailed .error e.message
      return (machine, .error e)
    | .ok () => machine.converge scope config gzip

/-- Lets a deleted machine go. -/
def release (machine : InfraMachine) : InfraMachine × Except Error Action :=
  (machine.removeFinalizer finalizer, .ok .awaitChange)

/-- Takes down the instance of a deleted machine once there is a client for the cloud. A malformed
provider ID names no instance. -/
def tearDown (machine : InfraMachine) (config : Config) :
    Service (InfraMachine × Except Error Action) := do
  let failed (e : Error) : InfraMachine × Except Error Action :=
    (machine, .error (.requeue e config.requeueInterval))
  match ← machine.findInstance with
  | .error (.invalidProviderId _) => return machine.release
  | .error e => return failed e
  | .ok none => return machine.release
  | .ok (some found) =>
    let gone : Service (InfraMachine × Except Error Action) := do
      Service.publish (machine.event Event.instanceDeleted "Delete"
        ("Deleted DataCrunch instance " ++ found.id))
      return machine.release
    match ← Service.call (.deleteInstance found.id) with
    | .ok () => gone
    | .error e => if e.isCloudNotFound then gone else return failed e

/-- Takes down the instance of a deleted machine and lets the machine go. When it is not known
where the credentials are, or no client can be set up with them, the machine is let go without
a look at the cloud. -/
def cleanUp (machine : InfraMachine) (credentials : Option SecretLocation) (config : Config) :
    Service (InfraMachine × Except Error Action) := do
  if !machine.hasFinalizer finalizer then return (machine, .ok .awaitChange)
  else
    match credentials with
    | none => return machine.release
    | some location =>
      match ← Service.connect location with
      | .error _ => return machine.release
      | .ok () => machine.tearDown config

end MachineProvider.InfraMachine
