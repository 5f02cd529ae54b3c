import MachineProvider.Config.Basic
import MachineProvider.SocketAddress
import MachineProvider.Text.Digit

/-!
# Arguments of the manager

Each argument of the manager has a name on the command line and an environment variable; what the
command line says wins. An argument can be given once, as `--name value` or as `--name=value`, and
those that take no value just as `--name`. Words are read from left to right, so that the first word
that ends the reading decides: a fault, or the wish for the version or for help.
-/

namespace MachineProvider.Manager

/-- What can be said on the command line. -/
inductive Argument where
  | configPath
  | healthAddress
  | watchFilter
  | watchNamespace
  | clusterConcurrency
  | machineConcurrency
  | syncPeriod
  | leaderElection
  | leaseDuration
  | renewDeadline
  | retryPeriod
  | jsonLog
  deriving DecidableEq, Repr, Inhabited

namespace Argument

/-- All arguments, in the order in which they are explained. -/
def all : List Argument :=
  [configPath, healthAddress, watchFilter, watchNamespace, clusterConcurrency, machineConcurrency,
   syncPeriod, leaderElection, leaseDuration, renewDeadline, retryPeriod, jsonLog]

theorem mem_all (a : Argument) : a ∈ all := by
  cases a <;> decide

/-- The name on the command line. -/
def name : Argument → String
  | configPath => "config"
  | healthAddress => "health-addr"
  | watchFilter => "watch-filter"
  | watchNamespace => "namespace"
  | clusterConcurrency => "cluster-concurrency"
  | machineConcurrency => "machine-concurrency"
  | syncPeriod => "sync-period-seconds"
  | leaderElection => "leader-elect"
  | leaseDuration => "leader-elect-lease-duration-seconds"
  | renewDeadline => "leader-elect-renew-deadline-seconds"
  | retryPeriod => "leader-elect-retry-period-seconds"
  | jsonLog => "log-json"

/-- The environment variable. -/
def environmentVariable : Argument → String
  | configPath => Config.pathVariable
  | healthAddress => "CAPDC_HEALTH_ADDR"
  | watchFilter => "CAPDC_WATCH_FILTER"
  | watchNamespace => "CAPDC_NAMESPACE"
  | clusterConcurrency => "CAPDC_CLUSTER_CONCURRENCY"
  | machineConcurrency => "CAPDC_MACHINE_CONCURRENCY"
  | syncPeriod => "CAPDC_SYNC_PERIOD_SECONDS"
  | leaderElection => "CAPDC_LEADER_ELECT"
  | leaseDuration => "CAPDC_LEADER_ELECT_LEASE_DURATION_SECONDS"
  | renewDeadline => "CAPDC_LEADER_ELECT_RENEW_DEADLINE_SECONDS"
  | retryPeriod => "CAPDC_LEADER_ELECT_RETRY_PERIOD_SECONDS"
  | jsonLog => "CAPDC_LOG_JSON"

/-- What an argument is for, where its name does not say it. -/
def purpose : Argument → String
  | configPath => "Controller configuration file"
  | healthAddress => "Address of the health endpoints"
  | watchFilter => "Only reconcile objects labelled cluster.x-k8s.io/watch-filter=<value>"
  | watchNamespace => "Restrict the controllers to one namespace"
  | syncPeriod => "Re-check running machines at this interval"
  | leaderElection => "Run only while holding the leader Lease"
  | jsonLog => "Emit logs as JSON"
  | _ => ""

/-- Whether an argument is true when its name alone stands on the command line. -/
def isSwitch : Argument → Bool
  | leaderElection | jsonLog => true
  | _ => false

/-- The argument with a name. -/
def ofName? (name : String) : Option Argument := all.find? (·.name = name)

/-- No two arguments have the same name. -/
theorem ofName?_name (a : Argument) : ofName? a.name = some a := by
  cases a <;> decide

end Argument

/-- The address of the health endpoints unless another is given. -/
def defaultHealthAddress : SocketAddress := { address := .v4 [0, 0, 0, 0], port := 9440 }

/-- What the arguments set. What they do not set is left to the configuration. -/
structure Arguments where
  configPath : String := Config.defaultPath
  healthAddress : SocketAddress := defaultHealthAddress
  watchFilter : Option String := none
  watchNamespace : Option String := none
  clusterConcurrency : Option UInt16 := none
  machineConcurrency : Option UInt16 := none
  syncPeriodSeconds : Option UInt64 := none
  leaderElection : Bool := false
  leaseDurationSeconds : Option UInt64 := none
  renewDeadlineSeconds : Option UInt64 := none
  retryPeriodSeconds : Option UInt64 := none
  jsonLog : Bool := false
  deriving DecidableEq, Repr, Inhabited

/-- Why arguments were not understood. -/
inductive UsageFault where
  | unknown (word : String)
  | repeated (argument : Argument)
  | missingValue (argument : Argument)
  | unexpectedValue (name : String)
  | invalidValue (argument : Argument) (value : String)
  deriving DecidableEq, Repr, Inhabited

/-- The text that reports a fault. -/
def UsageFault.message : UsageFault → String
  | unknown word => "unexpected argument '" ++ word ++ "' found"
  | repeated a => "the argument '--" ++ a.name ++ "' cannot be used multiple times"
  | missingValue a => "a value is required for '--" ++ a.name ++ "' but none was supplied"
  | unexpectedValue name => "unexpected value for '--" ++ name ++ "' found; no more were expected"
  | invalidValue a value => "invalid value '" ++ value ++ "' for '--" ++ a.name ++ "'"

/-! ## Values -/

/-- A decimal number that may have a plus sign. -/
def natural? (value : String) : Option Nat :=
  match value.toList with
  | '+' :: rest => Text.number? 10 rest
  | all => Text.number? 10 all

/-- A number of 64 bits without a sign. -/
def uint64? (value : String) : Option UInt64 :=
  ((natural? value).filter (· < UInt64.size)).map UInt64.ofNat

/-- A number of 16 bits. A minus sign may stand before zero. -/
def uint16? (value : String) : Option UInt16 :=
  match value.toList with
  | '-' :: rest => ((Text.number? 10 rest).filter (· = 0)).map UInt16.ofNat
  | _ => ((natural? value).filter (· < UInt16.size)).map UInt16.ofNat

/-- A truth value. -/
def bool? (value : String) : Option Bool :=
  if value = "true" then some true else if value = "false" then some false else none

namespace Arguments

/-- The arguments with one of them set to a value; nothing when it is no value of the argument. -/
def set? (a : Arguments) (argument : Argument) (value : String) : Option Arguments :=
  match argument with
  | .configPath => some { a with configPath := value }
  | .healthAddress => (SocketAddress.parse? value).map fun address =>
    { a with healthAddress := address }
  | .watchFilter => some { a with watchFilter := some value }
  | .watchNamespace => some { a with watchNamespace := some value }
  | .clusterConcurrency => (uint16? value).map fun n => { a with clusterConcurrency := some n }
  | .machineConcurrency => (uint16? value).map fun n => { a with machineConcurrency := some n }
  | .syncPeriod => (uint64? value).map fun n => { a with syncPeriodSeconds := some n }
  | .leaderElection => (bool? value).map fun b => { a with leaderElection := b }
  | .leaseDuration => (uint64? value).map fun n => { a with leaseDurationSeconds := some n }
  | .renewDeadline => (uint64? value).map fun n => { a with renewDeadlineSeconds := some n }
  | .retryPeriod => (uint64? value).map fun n => { a with retryPeriodSeconds := some n }
  | .jsonLog => (bool? value).map fun b => { a with jsonLog := b }

end Arguments

/-! ## Reading -/

/-- What has been given so far. -/
structure Given where
  arguments : Arguments := {}
  /-- The arguments that were set. -/
  names : List Argument := []
  deriving Repr, Inhabited

/-- Takes the value of an argument that has not been given before. -/
def Given.take (g : Given) (argument : Argument) (value : String) : Except UsageFault Given :=
  if g.names.contains argument then .error (.repeated argument)
  else
    match g.arguments.set? argument value with
    | some arguments => .ok { arguments, names := argument :: g.names }
    | none => .error (.invalidValue argument value)

/-- What is asked of the manager. -/
inductive Request where
  | run (arguments : Arguments)
  | version
  | help
  deriving Repr, Inhabited

/-- What a word of the command line is. -/
inductive Word where
  /-- The end of all arguments. -/
  | finish
  /-- The name of an argument, with a value if one is attached. -/
  | long (name : String) (value : Option String)
  /-- A dash and letters. -/
  | short (letter : Char)
  | plain
  deriving Repr, Inhabited

/-- What a word of the command line is, going by its dashes. -/
def Word.ofString (word : String) : Word :=
  match word.toList with
  | ['-', '-'] => .finish
  | '-' :: '-' :: rest =>
    let name := String.ofList (rest.takeWhile (· != '='))
    match rest.dropWhile (· != '=') with
    | _ :: value => .long name (some (String.ofList value))
    | [] => .long name none
  | '-' :: letter :: _ => .short letter
  | _ => .plain

/-- Reads the words of a command line. -/
def readWords (g : Given) : List String → Except UsageFault (Given ⊕ Request)
  | [] => .ok (.inl g)
  | word :: rest =>
    match Word.ofString word with
    | .finish =>
      match rest with
      | [] => .ok (.inl g)
      | extra :: _ => .error (.unknown extra)
    | .long "help" none => .ok (.inr .help)
    | .long "version" none => .ok (.inr .version)
    | .short 'h' => .ok (.inr .help)
    | .short 'V' => .ok (.inr .version)
    | .long "help" (some _) => .error (.unexpectedValue "help")
    | .long "version" (some _) => .error (.unexpectedValue "version")
    | .long name attached =>
      match Argument.ofName? name, attached with
      | none, _ => .error (.unknown word)
      | some argument, some value =>
        if argument.isSwitch then .error (.unexpectedValue name)
        else do readWords (← g.take argument value) rest
      | some argument, none =>
        if argument.isSwitch then do readWords (← g.take argument "true") rest
        else
          match rest with
          | [] => .error (.missingValue argument)
          | value :: rest =>
            match Word.ofString value with
            | .plain => do readWords (← g.take argument value) rest
            | _ => .error (.missingValue argument)
    | .short _ | .plain => .error (.unknown word)

/-- Takes the values of environment variables for the arguments that have not been given. -/
def readEnvironment (env : Environment) (g : Given) : Except UsageFault Given :=
  Argument.all.foldlM (fun g argument =>
    if g.names.contains argument then .ok g
    else
      match env.get? argument.environmentVariable with
      | some value => g.take argument value
      | none => .ok g) g

/-- What a command line and an environment ask for. -/
def Request.read (env : Environment) (words : List String) : Except UsageFault Request := do
  match ← readWords {} words with
  | .inr request => return request
  | .inl given => return .run (← readEnvironment env given).arguments

end MachineProvider.Manager
