import MachineProvider.Json.Decode
import MachineProvider.Timestamp

/-!
# Conditions

A condition is one observation about an object: a type, a status and why. The conditions of an
object form a list in which `Ready` comes first and the others follow in the order of their types.
Setting a condition keeps the time of its last transition for as long as its status stays the same.
-/

namespace MachineProvider

/-- How severe a condition is whose status is false. -/
inductive Severity where
  | error
  | warning
  | info
  | none
  deriving DecidableEq, Repr, Inhabited

namespace Severity

/-- The written form of a severity. -/
def word : Severity → String
  | error => "Error"
  | warning => "Warning"
  | info => "Info"
  | none => ""

/-- The severity with a given written form. -/
def ofWord? (word : String) : Option Severity :=
  if word = "Error" then some error
  else if word = "Warning" then some warning
  else if word = "Info" then some info
  else if word = "" then some none
  else Option.none

end Severity

/-- One observation about an object. -/
structure Condition where
  type : String
  /-- `True`, `False` or `Unknown`, though any text can be read. -/
  status : String
  severity : Severity := .none
  /-- When the status last changed, as it was written. -/
  lastTransitionTime : Option String := none
  reason : Option String := none
  message : Option String := none
  deriving DecidableEq, Repr, Inhabited

namespace Condition

/-- Whether the status is true. -/
def isTrue (c : Condition) : Bool :=
  c.status = "True"

/-- The type of the condition that sums up the others. -/
def ready : String := "Ready"
/-- The type of the condition on the network of a cluster. -/
def networkInfrastructureReady : String := "NetworkInfrastructureReady"
/-- The type of the condition on the load balancer of a cluster. -/
def loadBalancerReady : String := "LoadBalancerReady"
/-- The type of the condition on the instance of a machine. -/
def instanceReady : String := "InstanceReady"

/-- The reason when no cloud client could be set up. -/
def clientFailed : String := "DataCrunchClientFailed"
/-- The reason when the infrastructure of the cluster is not ready. -/
def waitingForClusterInfrastructure : String := "WaitingForClusterInfrastructure"
/-- The reason when the bootstrap data has not been made. -/
def waitingForBootstrapData : String := "WaitingForBootstrapData"
/-- The reason when the instance could not be created. -/
def instanceCreationFailed : String := "InstanceCreationFailed"
/-- The reason when the instance is not running. -/
def instanceNotReady : String := "InstanceNotReady"
/-- The reason when the instance is gone for good. -/
def instanceTerminated : String := "InstanceTerminated"

/-- The first condition of a type. -/
def get? (conditions : List Condition) (type : String) : Option Condition :=
  conditions.find? (·.type = type)

/-- Whether the condition of a type is present and true. -/
def holds (conditions : List Condition) (type : String) : Bool :=
  match get? conditions type with
  | some c => c.isTrue
  | none => false

/-- The order of the conditions of an object: `Ready` first, the others by type. -/
def comesBefore (a b : Condition) : Bool :=
  if a.type = ready then true
  else if b.type = ready then false
  else a.type ≤ b.type

/-- Puts a condition in the place of the first one of its type, or at the end. The time of the last
transition is the old one when the status stays the same, and otherwise the given one. -/
def replaceOrAppend (condition : Condition) (now : Timestamp) : List Condition → List Condition
  | [] => [{ condition with lastTransitionTime := some now.toSecondsText }]
  | old :: rest =>
    if old.type = condition.type then
      let time :=
        if old.status = condition.status then old.lastTransitionTime else some now.toSecondsText
      { condition with lastTransitionTime := time } :: rest
    else old :: replaceOrAppend condition now rest

/-- Sets a condition and puts the list in order. -/
def set (conditions : List Condition) (condition : Condition) (now : Timestamp) : List Condition :=
  (replaceOrAppend condition now conditions).mergeSort comesBefore

/-- Sets the condition of a type to true. -/
def markTrue (conditions : List Condition) (type : String) (now : Timestamp) : List Condition :=
  set conditions { type, status := "True" } now

/-- Sets the condition of a type to false. An empty message counts as none. -/
def markFalse (conditions : List Condition) (type reason : String) (severity : Severity)
    (message : String) (now : Timestamp) : List Condition :=
  set conditions
    { type, status := "False", severity, reason := some reason
      message := if message.isEmpty then none else some message }
    now

/-- The names of the fields of a condition. -/
def fieldNames : List String :=
  ["type", "status", "severity", "lastTransitionTime", "reason", "message"]

/-- Reads a condition. -/
def decode (json : Json) : Option Condition := do
  let fields ← json.record? fieldNames
  return {
    type := ← fields.required "type" Json.string?
    status := ← fields.required "status" Json.string?
    severity := ← fields.withDefault "severity" (Json.name? Severity.ofWord?) .none
    lastTransitionTime := ← fields.optional "lastTransitionTime" Json.string?
    reason := ← fields.optional "reason" Json.string?
    message := ← fields.optional "message" Json.string? }

/-- Writes a condition. -/
def encode (c : Condition) : Json :=
  Json.ofMembers [
    ("type", some (.str c.type)),
    ("status", some (.str c.status)),
    ("severity", Json.ifText c.severity.word),
    ("lastTransitionTime", Json.ifSome .str c.lastTransitionTime),
    ("reason", Json.ifSome .str c.reason),
    ("message", Json.ifSome .str c.message)]

end Condition

end MachineProvider
