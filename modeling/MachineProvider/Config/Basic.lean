import MachineProvider.Delay
import MachineProvider.Environment
import MachineProvider.Text.Blank

/-!
# Configuration of the controllers

Every setting has a default. A configuration can drive the controllers when `validate` finds no
fault in it: no interval is zero, the names that have to be there are not blank, the retry delays
are in order, and so are the timings of leader election when it is enabled.
-/

namespace MachineProvider

/-- The secret with the credentials of clusters that name none themselves. -/
structure CredentialsConfig where
  secretName : String := "datacrunch-credentials"
  /-- The namespace of the secret; none stands for the namespace of the cluster. -/
  «namespace» : Option String := none
  deriving DecidableEq, Repr, Inhabited

/-- The retry delays after failures that ask for no delay of their own. -/
structure BackoffConfig where
  baseSeconds : UInt64 := 5
  maxSeconds : UInt64 := 300
  deriving DecidableEq, Repr, Inhabited

/-- How replicas of the manager choose a leader. -/
structure LeaderElectionConfig where
  enabled : Bool := false
  leaseName : String := "controller-leader-election-capdc"
  /-- The namespace of the lease; none stands for the namespace of the pod. -/
  leaseNamespace : Option String := none
  /-- How long others wait after the last renewal before they take over. -/
  leaseDurationSeconds : UInt64 := 15
  /-- How long the leader keeps trying after its last renewal. -/
  renewDeadlineSeconds : UInt64 := 10
  retryPeriodSeconds : UInt64 := 2
  deriving DecidableEq, Repr, Inhabited

/-- The settings of the controllers. -/
structure Config where
  /-- How long to wait before looking again at an instance that is on its way. -/
  requeueIntervalSeconds : UInt64 := 30
  /-- How long to wait before looking again at a running instance. -/
  syncPeriodSeconds : UInt64 := 600
  /-- The bound on the external calls of one reconcile. -/
  reconcileTimeoutSeconds : UInt64 := 300
  clusterConcurrency : UInt16 := 10
  machineConcurrency : UInt16 := 10
  /-- Only objects whose watch filter label has this value are looked at. -/
  watchFilter : Option String := none
  /-- The only namespace that is looked at. -/
  watchNamespace : Option String := none
  /-- The image of machines that name none themselves. -/
  defaultImage : String := "ubuntu-22.04-cuda-12.1"
  credentials : CredentialsConfig := {}
  backoff : BackoffConfig := {}
  leaderElection : LeaderElectionConfig := {}
  /-- Who is said to report the events. -/
  eventComponent : String := "capdc-manager"
  deriving DecidableEq, Repr, Inhabited

namespace BackoffConfig

/-- How often a delay can double. -/
def maxDoublings : Nat := 16

/-- The delay after so many failures in a row: the base, doubled once for each failure after the
first and at most `maxDoublings` times, and never more than the maximum. -/
def delay (b : BackoffConfig) (failures : UInt32) : Delay :=
  let doublings := min (failures.toNat - 1) maxDoublings
  let seconds := min (b.baseSeconds.toNat <<< doublings) (UInt64.size - 1)
  .ofSeconds (min seconds b.maxSeconds.toNat)

end BackoffConfig

/-- Why a configuration cannot drive the controllers. -/
inductive ConfigFault where
  | zeroRequeueInterval
  | zeroSyncPeriod
  | zeroReconcileTimeout
  | zeroConcurrency
  | blankDefaultImage
  | blankSecretName
  | backoffOrder
  | blankLeaseName
  | electionTimings
  deriving DecidableEq, Repr, Inhabited

/-- The text that reports a fault. -/
def ConfigFault.message : ConfigFault → String
  | zeroRequeueInterval => "requeueIntervalSeconds must be greater than zero"
  | zeroSyncPeriod => "syncPeriodSeconds must be greater than zero"
  | zeroReconcileTimeout => "reconcileTimeoutSeconds must be greater than zero"
  | zeroConcurrency => "clusterConcurrency and machineConcurrency must be greater than zero"
  | blankDefaultImage => "defaultImage must not be empty"
  | blankSecretName => "credentials.secretName must not be empty"
  | backoffOrder => "backoff.baseSeconds must be positive and not exceed backoff.maxSeconds"
  | blankLeaseName => "leaderElection.leaseName must not be empty"
  | electionTimings =>
    "leaderElection timings must satisfy " ++
      "0 < retryPeriodSeconds < renewDeadlineSeconds < leaseDurationSeconds"

namespace LeaderElectionConfig

/-- Whether a leader retries before its deadline, and the deadline is before the end of its lease. -/
def inOrder (c : LeaderElectionConfig) : Bool :=
  0 < c.retryPeriodSeconds && c.retryPeriodSeconds < c.renewDeadlineSeconds &&
    c.renewDeadlineSeconds < c.leaseDurationSeconds

/-- The first fault of the settings; none when the election is not enabled. -/
def fault? (c : LeaderElectionConfig) : Option ConfigFault :=
  if !c.enabled then none
  else if Text.isBlankText c.leaseName then some .blankLeaseName
  else if !c.inOrder then some .electionTimings
  else none

end LeaderElectionConfig

namespace Config

/-- How long to wait before looking again at an instance that is on its way. -/
def requeueInterval (c : Config) : Delay :=
  .ofSeconds c.requeueIntervalSeconds.toNat

/-- How long to wait before looking again at a running instance. -/
def syncPeriod (c : Config) : Delay :=
  .ofSeconds c.syncPeriodSeconds.toNat

/-- The bound on the external calls of one reconcile. -/
def reconcileTimeout (c : Config) : Delay :=
  .ofSeconds c.reconcileTimeoutSeconds.toNat

/-- The first fault of a configuration, in the order in which the settings are checked. -/
def fault? (c : Config) : Option ConfigFault :=
  if c.requeueIntervalSeconds = 0 then some .zeroRequeueInterval
  else if c.syncPeriodSeconds = 0 then some .zeroSyncPeriod
  else if c.reconcileTimeoutSeconds = 0 then some .zeroReconcileTimeout
  else if c.clusterConcurrency = 0 || c.machineConcurrency = 0 then some .zeroConcurrency
  else if Text.isBlankText c.defaultImage then some .blankDefaultImage
  else if Text.isBlankText c.credentials.secretName then some .blankSecretName
  else if c.backoff.baseSeconds = 0 || c.backoff.maxSeconds < c.backoff.baseSeconds then
    some .backoffOrder
  else c.leaderElection.fault?

/-- Accepts a configuration that has no fault. -/
def validate (c : Config) : Except ConfigFault Unit :=
  match c.fault? with
  | some fault => .error fault
  | none => .ok ()

/-- Where the configuration is mounted unless the environment says otherwise. -/
def defaultPath : String := "/config/config.yaml"

/-- The environment variable that says where the configuration is. -/
def pathVariable : String := "CAPDC_CONFIG_PATH"

/-- Where the configuration is. -/
def path (env : Environment) : String :=
  (env.get? pathVariable).getD defaultPath

end Config

end MachineProvider
