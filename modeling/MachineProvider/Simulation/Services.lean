import MachineProvider.Simulation.Clock
import MachineProvider.Simulation.Cloud
import MachineProvider.Simulation.Log

/-!
# Simulated services

The services of a reconcile, answered by a simulated cloud, given secrets and a clock that stands
still except while a request is waited for.
-/

namespace MachineProvider.Simulation

/-- The answers of secrets by namespace and name; a secret that is not listed does not exist. -/
abbrev Secrets := List (SecretLocation × Except Error SecretData)

/-- The state of simulated services. -/
structure Services where
  /-- Milliseconds of the monotonic clock. -/
  clock : Nat
  guard : Guard
  /-- What the clock on the wall shows. -/
  wallClock : Timestamp
  cloud : Cloud := {}
  secrets : Secrets := []
  /-- What the outside saw, the latest first. -/
  log : List LogEntry := []

namespace Services

/-- Adds an entry to the log. -/
def record (s : Services) (entry : LogEntry) : Services :=
  { s with log := entry :: s.log }

/-- Waits for work under the guard. The work is logged when it starts, and has its result and its
effect when it ends. -/
def guarded {ε α : Type} (s : Services) (patience : Patience) (entry : LogEntry) (millis : Nat)
    (work : Services → Except ε α × Services) : Outcome ε α × Services :=
  let ended := s.guard.call patience s.clock millis
  let s := if ended.wasStarted then s.record entry else s
  let s := { s with clock := ended.instant s.clock }
  match ended with
  | .refused cause => (.refused cause, s)
  | .abandoned cause _ => (.abandoned cause, s)
  | .finished _ =>
    let (result, s) := work s
    (.finished result, s)

/-- Work of the cloud. -/
def onCloud {α : Type} (work : Cloud → Except CloudError α × Cloud) (s : Services) :
    Except CloudError α × Services :=
  let (result, cloud) := work s.cloud
  (result, { s with cloud })

/-- How many milliseconds a request to the cloud takes. -/
def millis (s : Services) (call : CloudCall) : Nat :=
  pause s.clock (s.cloud.seconds call)

/-- The answer to reading a secret. -/
def readSecret (s : Services) (location : SecretLocation) : Except Error (Option SecretData) :=
  match s.secrets.lookup location with
  | none => .ok none
  | some (.ok data) => .ok (some data)
  | some (.error e) => .error e

/-- Answers a request. -/
def request (s : Services) (patience : Patience) :
    (r : Request) → Outcome r.Failure r.Success × Services
  | .readSecret _ location =>
    s.guarded patience (.secret location) 0 fun s => (s.readSecret location, s)
  | .createInstance r =>
    s.guarded patience (.create r) (s.millis .create) (onCloud (·.create r))
  | .getInstance id =>
    s.guarded patience (.get id) (s.millis .get) (onCloud (·.get id))
  | .startInstance id =>
    s.guarded patience (.start id) (s.millis .start)
      (onCloud fun c => c.perform .start (.ok (), c))
  | .deleteInstance id =>
    s.guarded patience (.delete id) (s.millis .delete) (onCloud (·.delete id))
  | .deleteLoadBalancer id =>
    s.guarded patience (.deleteLoadBalancer id) (s.millis .deleteLoadBalancer)
      (onCloud fun c => c.perform .deleteLoadBalancer (.ok (), c))

/-- Answers a question. -/
def answer : (q : Service.Question) → Services → Service.Answer q × Services
  | .call r, s => s.request r.patience r
  | .connect credentials, s =>
    let (result, cloud) := s.cloud.perform .connect (.ok (), s.cloud)
    (result, { s with cloud }.record (.connect credentials))
  | .publish event, s => ((), s.record (.event event))
  | .now, s => (s.wallClock, s)

/-- Runs a procedure on simulated services. -/
def run {α : Type} (procedure : Service α) (s : Services) : α × Services :=
  procedure.run answer s

end Services

end MachineProvider.Simulation
