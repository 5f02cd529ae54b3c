import MachineProvider.Config.File
import MachineProvider.Manager.Arguments

/-!
# Starting the manager

The settings come from the configuration file, and the arguments override them. The settings of the
file must be without fault by themselves, and the settings that result must be as well
(`Arguments.settle`). Then the manager needs a client of the cluster.
-/

namespace MachineProvider.Manager

/-- The version of the manager. -/
def version : String := "0.1.0"

/-- The name of the manager. -/
def name : String := "capdc-manager"

namespace Arguments

/-- A leader election with what the arguments say. It is enabled when either wants it. -/
def applyToElection (a : Arguments) (c : LeaderElectionConfig) : LeaderElectionConfig :=
  { c with
    enabled := c.enabled || a.leaderElection
    leaseDurationSeconds := a.leaseDurationSeconds.getD c.leaseDurationSeconds
    renewDeadlineSeconds := a.renewDeadlineSeconds.getD c.renewDeadlineSeconds
    retryPeriodSeconds := a.retryPeriodSeconds.getD c.retryPeriodSeconds }

/-- A configuration with what the arguments say. -/
def apply (a : Arguments) (c : Config) : Config :=
  { c with
    watchFilter := a.watchFilter <|> c.watchFilter
    watchNamespace := a.watchNamespace <|> c.watchNamespace
    clusterConcurrency := a.clusterConcurrency.getD c.clusterConcurrency
    machineConcurrency := a.machineConcurrency.getD c.machineConcurrency
    syncPeriodSeconds := a.syncPeriodSeconds.getD c.syncPeriodSeconds
    leaderElection := a.applyToElection c.leaderElection }

/-- Arguments that say nothing leave a configuration as it is. -/
theorem apply_default (c : Config) : ({} : Arguments).apply c = c := by
  simp [apply, applyToElection]

/-- The configuration to run with, if it is without fault before and after the arguments are
applied. -/
def settle (a : Arguments) (file : Option ByteArray) : Except ConfigFault Config := do
  let config := a.apply (← Config.load file)
  config.validate
  return config

end Arguments

/-- Why the manager ended before it ran the controllers. -/
inductive Ending where
  | version
  | help
  | usage (fault : UsageFault)
  | invalid (fault : ConfigFault)
  /-- There is no cluster to talk to. -/
  | noClient
  deriving DecidableEq, Repr, Inhabited

namespace Ending

/-- The exit code of the process. -/
def exitCode : Ending → Nat
  | version | help => 0
  | usage _ => 2
  | invalid _ | noClient => 1

/-- The text that reports what went wrong. -/
def message? : Ending → Option String
  | version | help => none
  | usage fault => some fault.message
  | invalid fault => some fault.message
  | noClient => some "failed to create Kubernetes client"

end Ending

/-- How the manager ends that has a file with its configuration, or none, and no cluster. -/
def start (a : Arguments) (file : Option ByteArray) : Ending :=
  match a.settle file with
  | .error fault => .invalid fault
  | .ok _ => .noClient

/-! ## Texts -/

/-- The line that says the version. -/
def versionLine : String := name ++ " " ++ version

/-- What stands for the value of an argument where it is explained. -/
def placeholder (a : Argument) : String :=
  if a.isSwitch then "" else " <" ++ (a.name.map fun c => if c = '-' then '_' else c.toUpper) ++ ">"

/-- What an argument is when it is not given. -/
def standard? : Argument → Option String
  | .configPath => some Config.defaultPath
  | .healthAddress => some "0.0.0.0:9440"
  | _ => none

/-- The lines that explain an argument. -/
def explanation (env : Environment) (a : Argument) : List String :=
  let value := (env.get? a.environmentVariable).getD ""
  let source := "[env: " ++ a.environmentVariable ++ "=" ++ value ++ "]"
  let standard := (standard? a).map fun value => "[default: " ++ value ++ "]"
  let purpose := if a.purpose.isEmpty then [] else [a.purpose]
  ["      --" ++ a.name ++ placeholder a,
   "          " ++ " ".intercalate (purpose ++ [source] ++ standard.toList)]

/-- The lines that explain the command line. -/
def helpLines (env : Environment) : List String :=
  ["Cluster API provider for DataCrunch", "", "Usage: " ++ name ++ " [OPTIONS]", "", "Options:"] ++
    Argument.all.flatMap (explanation env) ++
    ["  -h, --help", "          Print help", "  -V, --version", "          Print version"]

/-- What the manager writes to its standard output before it ends. -/
def Ending.output (env : Environment) : Ending → List String
  | .version => [versionLine]
  | .help => helpLines env
  | _ => []

end MachineProvider.Manager
