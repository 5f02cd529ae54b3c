import MachineProvider.Credentials
import MachineProvider.Event
import MachineProvider.Guard
import MachineProvider.Instance
import MachineProvider.Procedure

/-!
# The services that a reconcile uses

While it works on one object, a reconcile reads secrets, sets up a client for the cloud, sends
requests to the cloud through that client, publishes events and reads the clock. Each of these is a
question, and a `Service` is a procedure that asks such questions. A request, which takes time, is
made under the guard of the reconcile, so that its answer may be an interruption.
-/

namespace MachineProvider

/-- What a secret is read for. -/
inductive SecretPurpose where
  | credentials
  | bootstrapData
  deriving DecidableEq, Repr, Inhabited

/-- A request that takes time. -/
inductive Request where
  | readSecret (purpose : SecretPurpose) (location : SecretLocation)
  | createInstance (request : InstanceRequest)
  | getInstance (id : String)
  | startInstance (id : String)
  | deleteInstance (id : String)
  | deleteLoadBalancer (id : String)
  deriving DecidableEq

namespace Request

/-- The name of the operation in the texts of failures. -/
def operation : Request → String
  | readSecret .credentials _ => "read credentials secret"
  | readSecret .bootstrapData _ => "read bootstrap data secret"
  | createInstance request => "create instance " ++ request.name
  | getInstance id => "get instance " ++ id
  | startInstance id => "start instance " ++ id
  | deleteInstance id => "delete instance " ++ id
  | deleteLoadBalancer id => "delete load balancer " ++ id

/-- Whether the request may be given up after it was sent. An instance that nobody waits for would
be lost. -/
def patience : Request → Patience
  | createInstance _ => .untilFinished
  | _ => .interruptible

/-- What a request gives when it succeeds. A secret that does not exist is no failure. -/
abbrev Success : Request → Type
  | readSecret .. => Option SecretData
  | createInstance _ => Instance
  | getInstance _ => Instance
  | startInstance _ => Unit
  | deleteInstance _ => Unit
  | deleteLoadBalancer _ => Unit

/-- What a request gives when it fails. -/
abbrev Failure : Request → Type
  | readSecret .. => Error
  | _ => CloudError

/-- The failure of a request as the failure of a reconcile. -/
def toError : (request : Request) → request.Failure → Error
  | readSecret .., e => e
  | createInstance _, e => .cloud e
  | getInstance _, e => .cloud e
  | startInstance _, e => .cloud e
  | deleteInstance _, e => .cloud e
  | deleteLoadBalancer _, e => .cloud e

end Request

namespace Service

/-- A question to the services. -/
inductive Question where
  /-- A request under the guard. Requests to the cloud go through the client set up last. -/
  | call (request : Request)
  /-- Sets up a client for the cloud. -/
  | connect (credentials : Credentials)
  | publish (event : Event)
  /-- Reads the clock. -/
  | now

/-- The answer to a question. -/
abbrev Answer : Question → Type
  | .call request => Outcome request.Failure request.Success
  | .connect _ => Except CloudError Unit
  | .publish _ => Unit
  | .now => Timestamp

end Service

/-- A procedure that uses the services. -/
abbrev Service (α : Type) := Procedure Service.Question Service.Answer α

namespace Service

/-- The result of a request as its caller sees it. -/
def received (request : Request) :
    Outcome request.Failure request.Success → Except Error request.Success
  | .refused cause => .error (cause.error request.operation)
  | .abandoned cause => .error (cause.error request.operation)
  | .finished (.error e) => .error (request.toError e)
  | .finished (.ok value) => .ok value

/-- Makes a request under the guard. -/
def call (request : Request) : Service (Except Error request.Success) :=
  .ask (.call request) fun outcome => .done (received request outcome)

/-- Publishes an event. -/
def publish (event : Event) : Service Unit :=
  .ask (.publish event) .done

/-- Reads the clock. -/
def now : Service Timestamp :=
  .ask .now .done

/-- Reads credentials from the secret that holds them. -/
def credentialsAt (location : SecretLocation) : Service (Except Error Credentials) := do
  match ← call (.readSecret .credentials location) with
  | .error e => return .error e
  | .ok none => return .error (.credentials ("secret " ++ location.display ++ " not found"))
  | .ok (some data) => return Credentials.ofSecret data location

/-- Sets up a client for the cloud with the credentials of a secret. -/
def connect (location : SecretLocation) : Service (Except Error Unit) := do
  match ← credentialsAt location with
  | .error e => return .error e
  | .ok credentials =>
    .ask (.connect credentials) fun
      | .ok () => .done (.ok ())
      | .error e => .done (.error (.cloud e))

end Service

end MachineProvider
