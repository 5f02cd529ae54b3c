import MachineProvider.Controller.Retry
import MachineProvider.Controller.Schedule
import MachineProvider.Simulation.Clock
import MachineProvider.Simulation.World

/-!
# Simulated controllers

Both controllers at work in a simulated world. They list what they watch, then hear of every change,
and look at the objects in the order in which these are due. Runs take no time. A change that
comes during a run, also one that the run itself makes, leads to one more run right after it.
-/

namespace MachineProvider.Simulation

/-- How the controllers are doing. -/
inductive Progress where
  | starting
  | running
  | ended (result : Except ConfigFault Unit)

/-- The controllers and their world. -/
structure Dispatcher where
  world : World
  progress : Progress := .starting
  /-- The infrastructure objects that the controllers have heard of. -/
  known : List (Target × Metadata) := []
  schedule : Schedule := {}
  /-- What the outside saw and in which second, the latest first. -/
  log : List (Nat × LogEntry) := []
  /-- Whether a run has crashed. -/
  crashed : Bool := false

namespace Dispatcher

/-- The instant at which the world is. -/
def clock (d : Dispatcher) : Nat := d.world.services.clock

/-- The same controllers at another instant. -/
def moved (d : Dispatcher) (instant : Nat) : Dispatcher :=
  { d with world.services.clock := instant }

/-- The second since the beginning. -/
def second (d : Dispatcher) : Nat := (d.clock - clockOrigin) / 1000

/-- The part of the objects that the controllers look at. -/
def scope (d : Dispatcher) : WatchScope := .ofConfig d.world.config

/-- The line that shows that a kind is listed or watched. -/
def listingLine (scope : WatchScope) (verb : String) (kind : Kind) : String :=
  let selector := match scope.selector? with
    | some s => " [" ++ s ++ "]"
    | none => ""
  verb ++ " " ++ kind.type.plural ++ " " ++ scope.namespace.getD "*" ++ selector ++ " -> 200"

/-- The kinds that the controllers watch. -/
def watchedKinds : List Kind := (Watch.controlled.flatMap Watch.watched).eraseDups

/-- The kind of a stored object, if it is watched. -/
def kindOf? (key : ObjectKey) : Option Kind :=
  watchedKinds.find? fun kind => kind.type.plural = key.plural

/-- The metadata of the infrastructure machines that are known. -/
def machines (d : Dispatcher) : List Metadata :=
  (d.known.filter (·.1.kind = .infraMachine)).map (·.2)

/-- Takes note of what became of an infrastructure object. -/
def note (d : Dispatcher) (kind : Kind) (m : Metadata) (removed : Bool) : Dispatcher :=
  if !Watch.controlled.contains kind then d
  else
    let target := Target.ofMetadata kind m
    let others := d.known.filter (·.1 != target)
    { d with known := if removed then others else others ++ [(target, m)] }

/-- Puts targets into the schedule at once. -/
def trigger (d : Dispatcher) (targets : List Target) : Dispatcher :=
  { d with schedule := targets.foldl (fun s t => s.add t d.clock) d.schedule }

/-- Hears of a change of an object. The removal of an infrastructure object leads to no run. -/
def hear (d : Dispatcher) (change : Change) : Dispatcher :=
  match kindOf? change.key with
  | none => d
  | some kind =>
    match kind.decode change.object with
    | none => d
    | some object =>
      if !d.scope.covers object.metadata then d
      else
        let d := d.note kind object.metadata change.removed
        if change.removed && Watch.controlled.contains kind then d
        else d.trigger (Watch.targets d.machines kind object)

/-- Hears of everything that has changed. -/
def hearChanges (d : Dispatcher) : Dispatcher :=
  let changes := d.world.server.changes.reverse
  changes.foldl hear { d with world.server.changes := [] }

/-- Shows a line in the log. -/
def logLine (d : Dispatcher) (line : String) : Dispatcher :=
  { d with log := (d.second, .listing line) :: d.log }

/-- Starts the controllers: they list what they watch, and refuse a faulty configuration. -/
def start (d : Dispatcher) : Dispatcher :=
  match d.world.config.validate with
  | .error fault => { d with progress := .ended (.error fault) }
  | .ok () =>
    let lines := watchedKinds.flatMap fun kind =>
      [listingLine d.scope "list" kind, listingLine d.scope "watch" kind]
    let d := lines.foldl logLine { d with progress := .running }
    let stored := d.world.server.objects.map fun (key, object) => ({ key, object } : Change)
    stored.foldl hear { d with world.server.changes := [] }

/-- When an object is to be looked at again after a run, if it is. -/
def nextLook (d : Dispatcher) (target : Target) :
    Except Error Action → Option Delay × Dispatcher
  | .ok .awaitChange => (none, d)
  | .ok (.requeue after) => (some after, d)
  | .error e =>
    let w := d.world
    let (delay, failures) := w.failures.delayAfter w.config.backoff target.failureKey e
    (some delay, { d with world.failures := failures })

/-- Looks at an object that is known. -/
def lookAt (d : Dispatcher) (target : Target) : Dispatcher :=
  let before := { d.world with services.log := [] }
  let (run, world) := before.reconcile target.kind target.namespace target.name
  let seen := world.services.log.map fun entry => (d.second, entry)
  let d := { d with world, log := seen ++ d.log }.hearChanges
  match run with
  | .crashed => { d with crashed := true }
  | .finished result =>
    match d.nextLook target result with
    | (none, d) => d
    | (some delay, d) => { d with schedule := d.schedule.addAfter target d.clock delay }

/-- Looks at the first object that is due before an instant. -/
def step? (d : Dispatcher) (instant : Nat) : Option Dispatcher :=
  match d.schedule.first? with
  | none => none
  | some (target, due) =>
    if due < instant then
      let d := { d with schedule := d.schedule.remove target }.moved (max d.clock due)
      if (d.known.lookup target).isSome then some (d.lookAt target) else some d
    else none

/-- Looks at no more than so many objects that are due before an instant. -/
def runBefore (instant : Nat) : Nat → Dispatcher → Dispatcher
  | 0, d => d
  | fuel + 1, d =>
    if d.crashed then d
    else
      match d.step? instant with
      | some d => runBefore instant fuel d
      | none => d

/-- How many objects can be looked at in a simulation. -/
def runLimit : Nat := 1000000

/-- Lets time pass. -/
def advance (d : Dispatcher) (millis : Nat) : Dispatcher :=
  let ending := d.clock + millis
  let d := match d.progress with
    | .starting => d.start
    | _ => d
  match d.progress with
  | .running => (runBefore ending runLimit d.hearChanges).moved ending
  | _ => d.moved ending

/-- Tells the controllers to stop and waits until they have. -/
def stop (d : Dispatcher) : Dispatcher :=
  match d.progress with
  | .ended _ => d
  | .running => { d with progress := .ended (.ok ()) }
  | .starting => { d with progress := .ended d.world.config.validate }

/-- The stored objects of a kind, by namespace and name. -/
def stored (d : Dispatcher) (kind : Kind) : List (ObjectKey × Json) :=
  let objects := d.world.server.objects.filter (·.1.plural = kind.type.plural)
  objects.mergeSort fun a b =>
    a.1.namespace < b.1.namespace || (a.1.namespace = b.1.namespace && a.1.name ≤ b.1.name)

end Dispatcher

end MachineProvider.Simulation
