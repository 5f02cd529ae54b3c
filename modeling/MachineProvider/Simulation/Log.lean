import MachineProvider.Service

/-!
# The log of a simulation

What the outside saw, in its order.
-/

namespace MachineProvider.Simulation

/-- A request to the API server and the code of its answer; zero means that there was none. -/
structure ApiCall where
  verb : String
  plural : String
  «namespace» : String
  name : String
  /-- The version that was sent along. -/
  version : Option String := none
  code : Nat
  deriving DecidableEq, Repr

/-- The line that shows a request to the API server. -/
def ApiCall.line (c : ApiCall) : String :=
  let version := match c.version with
    | some v => " rv=" ++ v
    | none => ""
  c.verb ++ " " ++ c.plural ++ " " ++ c.namespace ++ "/" ++ c.name ++ version ++ " -> " ++
    toString c.code

/-- An event as it was sent to the API server. -/
structure PostedEvent where
  verb : String
  «namespace» : String
  event : Event
  reportingController : String
  reportingInstance : String
  /-- How often the event has been sent, when this is not the first time. -/
  seriesCount : Option Nat
  deriving DecidableEq, Repr

/-- What the outside saw. -/
inductive LogEntry where
  | secret (location : SecretLocation)
  | connect (credentials : Credentials)
  | create (request : InstanceRequest)
  | get (id : String)
  | start (id : String)
  | delete (id : String)
  | deleteLoadBalancer (id : String)
  | event (event : Event)
  | apiCall (call : ApiCall)
  | postedEvent (event : PostedEvent)
  /-- A list or a watch of the objects of a kind. -/
  | listing (line : String)

end MachineProvider.Simulation
