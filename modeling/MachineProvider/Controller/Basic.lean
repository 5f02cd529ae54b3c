import MachineProvider.Action
import MachineProvider.ApiAnswer
import MachineProvider.Controller.Kind
import MachineProvider.Service

/-!
# Procedures of the controllers

A run of a controller for one object reads objects from the API server, reconciles the object with
the help of the services, and writes it back. A `Controller` is a procedure that asks for these
steps. Before the services are used, the run starts its guard, which fails when the deadline cannot
be represented: the run then crashes (`Run.crashed`).
-/

namespace MachineProvider

namespace Controller

/-- A question of a controller. -/
inductive Question where
  /-- A question to the services, under the guard that was started last. -/
  | service (question : Service.Question)
  /-- Starts a guard; the answer says whether its deadline can be represented. -/
  | startGuard (timeout : Delay)
  /-- Reads an object from the API server. -/
  | fetch (kind : Kind) («namespace» name : String)
  /-- Writes metadata and specification of an object; the answer is the object as it is stored. -/
  | replace (kind : Kind) («namespace» name : String) (object : kind.Object)
  /-- Writes the status of an object. -/
  | replaceStatus (kind : Kind) («namespace» name : String) (object : kind.Object)
  /-- Forgets the failures of the object with the given key. -/
  | forgetFailures (key : String)

/-- The answer to a question. -/
abbrev Answer : Question → Type
  | .service question => Service.Answer question
  | .startGuard _ => Bool
  | .fetch kind .. => Except ApiFailure kind.Object
  | .replace kind .. => Except ApiFailure kind.Object
  | .replaceStatus .. => Except ApiFailure Unit
  | .forgetFailures _ => Unit

end Controller

/-- A procedure of a controller. -/
abbrev Controller (α : Type) := Procedure Controller.Question Controller.Answer α

/-- How a run of a controller for one object ended. -/
inductive Run where
  /-- The guard could not be started. -/
  | crashed
  | finished (result : Except Error Action)

namespace Controller

/-- A service as a part of a controller's procedure. -/
def ofService {α : Type} (service : Service α) : Controller α :=
  service.interpret fun question => .ask (.service question) .done

/-- Reads an object that must exist. -/
def fetch (kind : Kind) («namespace» name : String) : Controller (Except Error kind.Object) :=
  if name.isEmpty then return .error (.api .emptyName)
  else
    .ask (.fetch kind «namespace» name) fun
      | .ok object => .done (.ok object)
      | .error e => .done (.error (.api e))

/-- Reads an object that may be missing. -/
def fetchOptional (kind : Kind) («namespace» name : String) :
    Controller (Except Error (Option kind.Object)) :=
  if name.isEmpty then return .error (.api .emptyName)
  else .ask (.fetch kind «namespace» name) fun answer => .done (ApiAnswer.present answer)

end Controller

end MachineProvider
