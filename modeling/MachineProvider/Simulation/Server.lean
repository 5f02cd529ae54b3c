import MachineProvider.Controller.Kind
import MachineProvider.Simulation.Log
import MachineProvider.Text.Digit

/-!
# A simulated API server

The server keeps objects by resource, namespace and name, and counts their versions. A write that
names another version than the stored one is rejected. Metadata and specification are written apart
from the status, and an object that is deleted goes away with its last finalizer. Hooks interfere
with requests before these are served: they change or remove the object that is asked for, or make
the request fail.
-/

namespace MachineProvider.Simulation

/-- What an object is found by. -/
structure ObjectKey where
  plural : String
  «namespace» : String
  name : String
  deriving DecidableEq, Repr, Inhabited

/-- The plural of a kind, as requests name it. -/
def pluralOf (kind : String) : String :=
  if kind.isEmpty then "" else String.ofList (kind.toList.map Char.toLower) ++ "s"

/-- A member of the metadata that is a text. -/
def metadataText? (object : Json) (name : String) : Option String :=
  (object.path? ["metadata", name]).bind Json.asString?

/-- What an object is stored under. -/
def ObjectKey.ofObject (object : Json) : ObjectKey where
  plural := pluralOf (((object.find? "kind").bind Json.asString?).getD "")
  «namespace» := (metadataText? object "namespace").getD ""
  name := (metadataText? object "name").getD ""

/-- An interference with requests. -/
structure Hook where
  verb : String
  plural : String
  name : Option String := none
  /-- How many requests are let through before. -/
  skip : Nat := 0
  /-- How many requests are interfered with. -/
  times : Nat := 1
  /-- What is changed in the object that is asked for. -/
  merge : Option Json := none
  /-- Whether the object that is asked for is removed. -/
  remove : Bool := false
  /-- How the request fails. -/
  failure : Option ApiFailure := none
  deriving Inhabited

/-- What happened to a stored object. -/
structure Change where
  key : ObjectKey
  /-- The object as it is now, or as it was last. -/
  object : Json
  removed : Bool := false
  deriving Inhabited

/-- A simulated API server. -/
structure Server where
  objects : List (ObjectKey × Json) := []
  hooks : List Hook := []
  /-- The events that were accepted, with the number of times each was sent. -/
  events : List (Event × Nat) := []
  /-- The objects that were stored or removed, the latest first. -/
  changes : List Change := []
  deriving Inhabited

namespace Server

/-- The stored object with a key. -/
def get? (s : Server) (key : ObjectKey) : Option Json :=
  s.objects.lookup key

/-- Stores an object as it is. -/
def store (s : Server) (key : ObjectKey) (object : Json) : Server :=
  { s with
    objects := (key, object) :: s.objects.filter (·.1 ≠ key)
    changes := { key, object } :: s.changes }

/-- Removes an object. -/
def remove (s : Server) (key : ObjectKey) : Server :=
  match s.get? key with
  | none => s
  | some object =>
    { s with
      objects := s.objects.filter (·.1 ≠ key)
      changes := { key, object, removed := true } :: s.changes }

/-- The version of an object. -/
def versionOf? (object : Json) : Option String :=
  metadataText? object "resourceVersion"

/-- The object with a version. -/
def withVersion (object : Json) (version : String) : Json :=
  object.set "metadata"
    (((object.find? "metadata").getD (.obj [])).set "resourceVersion" (.str version))

/-- The version after that of a stored object. -/
def nextVersion (stored : Json) : String :=
  toString ((((versionOf? stored).bind (Text.number? 10 ·.toList)).getD 0 + 1))

/-- Stores an object that somebody else writes. Without a version of its own it gets the next. -/
def put (s : Server) (object : Json) : Server :=
  let key := ObjectKey.ofObject object
  match versionOf? object with
  | some _ => s.store key object
  | none =>
    let version := match s.get? key with
      | some stored => nextVersion stored
      | none => "1"
    s.store key (withVersion object version)

/-- Changes a stored object by a merge patch. -/
def merge (s : Server) (key : ObjectKey) (patch : Json) : Server :=
  match s.get? key with
  | none => s
  | some stored => s.store key (withVersion (stored.mergePatch patch) (nextVersion stored))

/-- Whether a hook is meant for a request. -/
def Hook.matches (h : Hook) (verb : String) (key : ObjectKey) : Bool :=
  h.verb = verb && h.plural = key.plural && h.name.all (· = key.name)

/-- What a hook that acts does to the server. -/
def interfere (s : Server) (h : Hook) (key : ObjectKey) : Server :=
  let s := match h.merge with
    | some patch => s.merge key patch
    | none => s
  if h.remove then s.remove key else s

/-- Lets the hooks act on a request, one after the other: the failure of the first that fails, the
hooks as they are afterwards, and the server. -/
def runHooks (verb : String) (key : ObjectKey) :
    List Hook → Server → Option ApiFailure × List Hook × Server
  | [], s => (none, [], s)
  | h :: rest, s =>
    if !Hook.matches h verb key then
      let (failure, rest, s) := runHooks verb key rest s
      (failure, h :: rest, s)
    else if h.skip > 0 then
      let (failure, rest, s) := runHooks verb key rest s
      (failure, { h with skip := h.skip - 1 } :: rest, s)
    else if h.times > 0 then
      let (failure, rest, s) := runHooks verb key rest (s.interfere h key)
      (h.failure.orElse fun _ => failure, { h with times := h.times - 1 } :: rest, s)
    else
      let (failure, rest, s) := runHooks verb key rest s
      (failure, h :: rest, s)

/-- An object that cannot be found. -/
def notFound (key : ObjectKey) : ApiFailure :=
  .refused (key.plural ++ " \"" ++ key.name ++ "\" not found") "NotFound" 404

/-- A write that came too late. -/
def conflict : ApiFailure :=
  .refused "the object has been modified" "Conflict" 409

/-- An object that is there already. -/
def alreadyExists : ApiFailure :=
  .refused "object already exists" "AlreadyExists" 409

/-- Whether an object is deleted and has no finalizers left. -/
def isReleased (object : Json) : Bool :=
  let deleted := match object.path? ["metadata", "deletionTimestamp"] with
    | none => false
    | some .null => false
    | some _ => true
  let finalizers := match object.path? ["metadata", "finalizers"] with
    | some (.arr (_ :: _)) => true
    | _ => false
  deleted && !finalizers

/-- Stores a new version of an object, unless it goes away. -/
def update (s : Server) (key : ObjectKey) (stored object : Json) : Json × Server :=
  let object := withVersion object (nextVersion stored)
  let s := s.store key object
  (object, if isReleased object then s.remove key else s)

/-- The object with the status of another. -/
def withStatusOf (object other : Json) : Json :=
  match other.find? "status" with
  | some status => object.set "status" status
  | none => object.erase "status"

/-- A request for one object. -/
inductive ApiRequest where
  | get
  | replace (object : Json)
  | replaceStatus (object : Json)
  | create (object : Json)

namespace ApiRequest

/-- The written form of what a request asks. -/
def verb : ApiRequest → String
  | get => "get"
  | replace _ => "replace"
  | replaceStatus _ => "replace_status"
  | create _ => "create"

/-- The version that a write is meant for. -/
def version? : ApiRequest → Option String
  | replace object => versionOf? object
  | replaceStatus object => versionOf? object
  | _ => none

end ApiRequest

/-- Whether a write is meant for another version than the stored one. -/
def isStale (request : ApiRequest) (stored : Json) : Bool :=
  match request.version? with
  | some version => versionOf? stored != some version
  | none => false

/-- Serves a request. -/
def serve (s : Server) (key : ObjectKey) (request : ApiRequest) :
    Except ApiFailure (Nat × Json) × Server :=
  match request, s.get? key with
  | .create _, some _ => (.error alreadyExists, s)
  | .create object, none =>
    let object := withVersion object "1"
    (.ok (201, object), s.store key object)
  | _, none => (.error (notFound key), s)
  | .get, some stored => (.ok (200, stored), s)
  | .replace object, some stored =>
    if isStale request stored then (.error conflict, s)
    else
      let (written, s) := s.update key stored (withStatusOf object stored)
      (.ok (200, written), s)
  | .replaceStatus object, some stored =>
    if isStale request stored then (.error conflict, s)
    else
      let (written, s) := s.update key stored (withStatusOf stored object)
      (.ok (200, written), s)

/-- The code that an answer is shown with. -/
def codeOf : Except ApiFailure (Nat × Json) → Nat
  | .ok (code, _) => code
  | .error (.refused _ _ code) => code
  | .error (.unusable _) => 0

/-- Answers a request, after the hooks have acted, and shows it in the log. -/
def answer (s : Server) (key : ObjectKey) (request : ApiRequest) :
    Except ApiFailure Json × LogEntry × Server :=
  let (failure, hooks, s) := runHooks request.verb key s.hooks s
  let s := { s with hooks }
  let (result, s) : Except ApiFailure (Nat × Json) × Server := match failure with
    | some e => (.error e, s)
    | none => s.serve key request
  let entry := LogEntry.apiCall
    { verb := request.verb, plural := key.plural, «namespace» := key.namespace, name := key.name
      version := request.version?, code := codeOf result }
  (result.map (·.2), entry, s)

/-- The plural of events. -/
def eventPlural : String := "events"

/-- Sends an event. One that continues a series is sent as a change of the event that began it. An
event that fails to be accepted does not count. -/
def postEvent (s : Server) (event : Event) (controller : String) : LogEntry × Server :=
  let known := s.events.find? fun (e, _) => e.sameSeries event
  let count := known.map fun (_, count) => count + 1
  let verb := if known.isSome then "patch" else "create"
  let «namespace» := event.regarding.namespace.getD "default"
  let entry := LogEntry.postedEvent
    { verb, «namespace», event, reportingController := controller
      reportingInstance := controller, seriesCount := count }
  let key : ObjectKey := { plural := eventPlural, «namespace», name := "" }
  let (failure, hooks, s) := runHooks verb key s.hooks s
  let s := { s with hooks }
  match failure with
  | some _ => (entry, s)
  | none =>
    let others := s.events.filter fun (e, _) => !e.sameSeries event
    (entry, { s with events := (event, count.getD 1) :: others })

end Server

end MachineProvider.Simulation
