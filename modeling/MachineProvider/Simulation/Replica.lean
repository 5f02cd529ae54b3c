import MachineProvider.Lease.Leadership
import MachineProvider.Simulation.Clock
import MachineProvider.Simulation.Server

/-!
# A simulated replica

A replica that takes part in a leader election on a simulated API server. Answers of the server take
no time. While the replica does something else, its lease is renewed in the background, and what
happens there happens in the order of its time. The clock on the wall, which leases are dated by,
is not simulated: it moves on by a microsecond whenever it is read.
-/

namespace MachineProvider.Simulation

/-- A replica and its API server. -/
structure Replica where
  elector : Elector
  server : Server
  /-- Milliseconds of the monotonic clock. -/
  clock : Nat := clockOrigin
  /-- How often the clock on the wall was read. -/
  readings : Nat := 0
  /-- What the server saw and in which second, the latest first. -/
  log : List (Nat × LogEntry) := []
  /-- Whether the replica shuts down. -/
  shutdown : Bool := false
  /-- The instants at which it will be told to shut down. -/
  cancellations : List Nat := []
  leadership : Option Leadership := none
  deriving Inhabited

namespace Replica

/-- What the clock on the wall shows when it is read for the first time. -/
def firstReading : Timestamp := ⟨1750000000, 0⟩

/-- The reading of the clock on the wall with a number. -/
def reading (number : Nat) : Timestamp :=
  ⟨firstReading.seconds + number / 1000000, number % 1000000 * 1000⟩

/-- The key of a lease. -/
def leaseKey («namespace» name : String) : ObjectKey :=
  { plural := Lease.type.plural, «namespace», name }

/-- Sends a request for a lease and logs it. -/
def request (r : Replica) (key : ObjectKey) (request : Server.ApiRequest) :
    Except ApiFailure Lease × Replica :=
  let (result, entry, server) := r.server.answer key request
  let second := (r.clock - clockOrigin) / 1000
  (ApiAnswer.understood Lease.decode result,
    { r with server, log := (second, entry) :: r.log })

/-- Answers a question of the elector. -/
def answer : (q : Election.Question) → Replica → Election.Answer q × Replica
  | .now, r => (reading r.readings, { r with readings := r.readings + 1 })
  | .fetch «namespace» name, r => r.request (leaseKey «namespace» name) .get
  | .create «namespace» name lease, r =>
    let (result, r) := r.request (leaseKey «namespace» name) (.create lease.encode)
    (result.map fun _ => (), r)
  | .replace «namespace» name lease, r =>
    let (result, r) := r.request (leaseKey «namespace» name) (.replace lease.encode)
    (result.map fun _ => (), r)

/-- Performs a procedure of the elector. -/
def perform {α : Type} (r : Replica) (procedure : Election α) : α × Replica :=
  procedure.run answer r

/-- The instant after the pause between two rounds. -/
def nextRound (r : Replica) : Nat :=
  r.clock + pause r.clock r.elector.retryPeriod.seconds

/-- Tells the replica to shut down. The lease is not renewed any more. -/
def cancel (r : Replica) : Replica :=
  { r with
    shutdown := true
    leadership := r.leadership.map Leadership.halted }

/-- Renews the lease in the background, the last renewal having been at the given instant. -/
def renew (r : Replica) (leadership : Leadership) (lastRenewed : Nat) : Replica :=
  let (round, r) := r.perform r.elector.round
  let leadership := leadership.afterRound r.elector lastRenewed r.clock r.nextRound round
  { r with leadership := some leadership, shutdown := r.shutdown || leadership.lost }

/-- The instant of the next cancellation. -/
def nextCancellation? (r : Replica) : Option Nat :=
  r.cancellations.min?

/-- Lets the first thing happen that is due in the background before an instant. -/
def step? (r : Replica) (instant : Nat) : Option Replica :=
  let cancellation := r.nextCancellation?.filter (· < instant)
  let renewal := do
    let leadership ← r.leadership
    let (lastRenewed, due) ← leadership.next
    if due < instant then some (leadership, lastRenewed, due) else none
  match cancellation, renewal with
  | some c, some (leadership, lastRenewed, due) =>
    if c ≤ due then some { r with clock := c, cancellations := r.cancellations.erase c }.cancel
    else some ({ r with clock := due }.renew leadership lastRenewed)
  | some c, none => some { r with clock := c, cancellations := r.cancellations.erase c }.cancel
  | none, some (leadership, lastRenewed, due) =>
    some ({ r with clock := due }.renew leadership lastRenewed)
  | none, none => none

/-- How much can happen in the background before an instant: rounds are a second apart. -/
def eventsBefore (r : Replica) (instant : Nat) : Nat :=
  (instant - r.clock) / 1000 + r.cancellations.length + 2

/-- Lets so many things happen that are due before an instant. -/
def runBefore (instant : Nat) : Nat → Replica → Replica
  | 0, r => r
  | fuel + 1, r =>
    match r.step? instant with
    | some r => runBefore instant fuel r
    | none => r

/-- Lets time pass. -/
def advance (r : Replica) (millis : Nat) : Replica :=
  let ending := r.clock + millis
  { runBefore ending (r.eventsBefore ending) r with clock := ending }

/-- Waits until an instant or until the replica shuts down. -/
def waitUntil (instant : Nat) : Nat → Replica → Replica
  | 0, r => { r with clock := instant }
  | fuel + 1, r =>
    if r.shutdown then r
    else
      match r.step? instant with
      | some r => waitUntil instant fuel r
      | none => { r with clock := instant }

/-- How an attempt to lead went. -/
inductive Attempt where
  | acquired
  | shutDown
  | crashed
  deriving DecidableEq, Repr, Inhabited

/-- Tries at most so many rounds to become the leader. -/
def tryRounds : Nat → Replica → Attempt × Replica
  | 0, r => (.shutDown, r)
  | fuel + 1, r =>
    let (round, r) := r.perform r.elector.round
    match round with
    | .held =>
      (.acquired, { r with leadership := some (.begun r.shutdown r.clock r.nextRound) })
    | .crashed => (.crashed, r)
    | .notHeld | .failed _ =>
      if r.shutdown then (.shutDown, { r with leadership := none })
      else
        let instant := r.nextRound
        let r := waitUntil instant (r.eventsBefore instant) r
        if r.shutdown then (.shutDown, { r with leadership := none }) else tryRounds fuel r

/-- How many rounds a replica tries that nobody tells to shut down. -/
def roundLimit : Nat := 100000

/-- Tries to become the leader. When a delay is given, the replica is told to shut down after so
many seconds. -/
def acquire (r : Replica) (shutdownAfter : Option Nat) : Attempt × Replica :=
  let cancellations := match shutdownAfter with
    | some seconds => r.cancellations ++ [r.clock + pause r.clock seconds]
    | none => r.cancellations
  tryRounds roundLimit { r with cancellations }

/-- Gives up the leadership without a word to the others. -/
def drop (r : Replica) : Replica :=
  { r with leadership := none }

/-- Gives up the leadership and hands the lease back, unless it was lost. -/
def release (r : Replica) : Replica :=
  match r.leadership with
  | none => r
  | some leadership => (r.drop.perform (leadership.release r.elector)).2

/-- The stored lease. -/
def lease? (r : Replica) : Option Json :=
  r.server.get? (leaseKey r.elector.namespace r.elector.leaseName)

end Replica

end MachineProvider.Simulation
