import MachineProvider.Cluster.Run
import MachineProvider.FailureCount
import MachineProvider.Machine.Run
import MachineProvider.Secret
import MachineProvider.Simulation.Server
import MachineProvider.Simulation.Services

/-!
# A simulated world for the controllers

The controllers run against a simulated API server and a simulated cloud. Secrets come from the
server and events go to it. An answer of the server takes no time but is never there at once: a
deadline that has passed comes before it.
-/

namespace MachineProvider.Simulation

/-- How the cloud behaves behind the API server. -/
inductive CloudAccess where
  /-- Requests go to the simulated cloud, and a connection is logged. -/
  | simulated
  /-- Clients can be set up, but no request reaches the cloud. -/
  | unreachable
  deriving DecidableEq, Repr, Inhabited

/-- The state of a world. -/
structure World where
  server : Server
  services : Services
  access : CloudAccess := .simulated
  config : Config := {}
  failures : FailureCount := .empty
  /-- Whether the process shuts down. -/
  shutdown : Bool := false

namespace World

/-- Sends a request to the server and shows it in the log. -/
def request (w : World) (key : ObjectKey) (request : Server.ApiRequest) :
    Except ApiFailure Json × World :=
  let (result, entry, server) := w.server.answer key request
  (result, { w with server, services := w.services.record entry })

/-- Reads a secret from the server. -/
def fetchSecret (w : World) (location : SecretLocation) :
    Except Error (Option SecretData) × World :=
  let key : ObjectKey :=
    { plural := Secret.plural, «namespace» := location.namespace, name := location.name }
  let (result, w) := w.request key .get
  (ApiAnswer.present (ApiAnswer.understood Secret.decode result), w)

/-- Reads a secret under the guard. -/
def readSecret (w : World) (location : SecretLocation) :
    Outcome Error (Option SecretData) × World :=
  let g := w.services.guard
  let now := w.services.clock
  if g.isCancelled { instant := now } then (.refused .cancelled, w)
  else if location.name.isEmpty then (.finished (.error (.api .emptyName)), w)
  else if g.deadline ≤ now then (.abandoned .deadlineExceeded, w)
  else
    let (result, w) := w.fetchSecret location
    (.finished result, w)

/-- Answers a question to the services that does not concern the server. -/
def askServices (w : World) (q : Service.Question) : Service.Answer q × World :=
  let (reply, services) := Services.answer q w.services
  (reply, { w with services })

/-- The failure of a request to a cloud that cannot be reached. -/
def noConnection (request : Request) : CloudError :=
  .transport request.operation "error sending request"

/-- Answers a request to a cloud that cannot be reached. -/
def unreachable (w : World) (r : Request) : Outcome r.Failure r.Success × World :=
  match r with
  | .readSecret _ location => w.readSecret location
  | .createInstance q => (.finished (.error (noConnection (.createInstance q))), w)
  | .getInstance id => (.finished (.error (noConnection (.getInstance id))), w)
  | .startInstance id => (.finished (.error (noConnection (.startInstance id))), w)
  | .deleteInstance id => (.finished (.error (noConnection (.deleteInstance id))), w)
  | .deleteLoadBalancer id => (.finished (.error (noConnection (.deleteLoadBalancer id))), w)

/-- Answers a question to the services. -/
def answerService (w : World) : (q : Service.Question) → Service.Answer q × World
  | .call (.readSecret _ location) => w.readSecret location
  | .call r =>
    match w.access with
    | .simulated => w.askServices (.call r)
    | .unreachable => w.unreachable r
  | .connect credentials =>
    match w.access with
    | .simulated => w.askServices (.connect credentials)
    | .unreachable => (.ok (), w)
  | .publish event =>
    let (entry, server) := w.server.postEvent event w.config.eventComponent
    ((), { w with server, services := w.services.record entry })
  | .now => (w.services.wallClock, w)

/-- The key of an object of a kind. -/
def keyOf (kind : Kind) («namespace» name : String) : ObjectKey where
  plural := kind.type.plural
  «namespace»
  name

/-- Answers a question of a controller. -/
def answer : (q : Controller.Question) → World → Controller.Answer q × World
  | .service q, w => w.answerService q
  | .startGuard timeout, w =>
    match Guard.start? w.services.clock timeout with
    | none => (false, w)
    | some started =>
      let services := { w.services with guard := { started with cancelled := w.shutdown } }
      (true, { w with services })
  | .fetch kind «namespace» name, w =>
    let (result, w) := w.request (keyOf kind «namespace» name) .get
    (ApiAnswer.understood kind.decode result, w)
  | .replace kind «namespace» name object, w =>
    let (result, w) := w.request (keyOf kind «namespace» name) (.replace (kind.encode object))
    (ApiAnswer.understood kind.decode result, w)
  | .replaceStatus kind «namespace» name object, w =>
    let (result, w) :=
      w.request (keyOf kind «namespace» name) (.replaceStatus (kind.encode object))
    ((ApiAnswer.understood kind.decode result).map fun _ => (), w)
  | .forgetFailures key, w => ((), { w with failures := w.failures.reset key })

/-- Runs the controller for an object of a kind. -/
def reconcile (w : World) (kind : Kind) («namespace» : Option String) (name : String) :
    Run × World :=
  match kind with
  | .infraCluster => (InfraCluster.run «namespace» name w.config).run answer w
  | _ => (InfraMachine.run «namespace» name w.config Gzip.encode).run answer w

/-- Counts a failure of an object and says how long to wait after it. -/
def backOff (w : World) (key : String) : Delay × World :=
  let (delay, failures) := w.failures.next w.config.backoff key
  (delay, { w with failures })

end World

end MachineProvider.Simulation
