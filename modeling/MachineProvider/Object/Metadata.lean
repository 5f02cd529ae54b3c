import MachineProvider.Json.Decode
import MachineProvider.Timestamp.Lenient

/-!
# Object metadata

What every object of the API server carries: its name, its labels and annotations, its owners, its
finalizers and its version. A list that is set but empty is not the same as one that is not set.
-/

namespace MachineProvider

/-- A reference from an object to one of its owners. -/
structure OwnerReference where
  apiVersion : String
  kind : String
  name : String
  uid : String
  controller : Option Bool := none
  blockOwnerDeletion : Option Bool := none
  deriving DecidableEq, Repr, Inhabited

namespace OwnerReference

/-- The names of the fields of an owner reference. -/
def fieldNames : List String :=
  ["apiVersion", "blockOwnerDeletion", "controller", "kind", "name", "uid"]

/-- Reads an owner reference; `null` counts as missing and missing texts are empty. -/
def decode (json : Json) : Option OwnerReference := do
  let members ← json.members?
  let fields ← (Json.obj members).record? fieldNames
  return {
    apiVersion := (← fields.optional "apiVersion" Json.string?).getD ""
    kind := (← fields.optional "kind" Json.string?).getD ""
    name := (← fields.optional "name" Json.string?).getD ""
    uid := (← fields.optional "uid" Json.string?).getD ""
    controller := ← fields.optional "controller" Json.bool?
    blockOwnerDeletion := ← fields.optional "blockOwnerDeletion" Json.bool? }

/-- Writes an owner reference. -/
def encode (r : OwnerReference) : Json :=
  Json.ofMembers [
    ("apiVersion", some (.str r.apiVersion)),
    ("blockOwnerDeletion", Json.ifSome .bool r.blockOwnerDeletion),
    ("controller", Json.ifSome .bool r.controller),
    ("kind", some (.str r.kind)),
    ("name", some (.str r.name)),
    ("uid", some (.str r.uid))]

end OwnerReference

/-- What every object of the API server carries. -/
structure Metadata where
  name : Option String := none
  generateName : Option String := none
  «namespace» : Option String := none
  labels : Option (Dictionary String) := none
  annotations : Option (Dictionary String) := none
  finalizers : Option (List String) := none
  ownerReferences : Option (List OwnerReference) := none
  deletionTimestamp : Option Timestamp := none
  resourceVersion : Option String := none
  uid : Option String := none
  generation : Option Int64 := none
  deriving DecidableEq, Inhabited

namespace Metadata

/-- The name of an object, or the beginning of the name that it will be given. -/
def anyName (m : Metadata) : String :=
  (m.name.orElse fun _ => m.generateName).getD ""

/-- The value of a label. -/
def label? (m : Metadata) (key : String) : Option String :=
  m.labels.bind (·.get? key)

/-- Whether an annotation is set, to whatever value. -/
def isAnnotated (m : Metadata) (key : String) : Bool :=
  (m.annotations.bind (·.get? key)).isSome

/-- The finalizers, none when they were never set. -/
def finalizerList (m : Metadata) : List String :=
  m.finalizers.getD []

/-- Whether the object has been asked to go away. -/
def isDeleted (m : Metadata) : Bool :=
  m.deletionTimestamp.isSome

/-- The names of the fields of the metadata. -/
def fieldNames : List String :=
  ["name", "generateName", "namespace", "labels", "annotations", "finalizers", "ownerReferences",
   "deletionTimestamp", "resourceVersion", "uid", "generation"]

/-- Reads a point in time. -/
def time? (json : Json) : Option Timestamp :=
  json.string? >>= Timestamp.parseLenient?

/-- Reads metadata. Every field is optional. -/
def decode (json : Json) : Option Metadata := do
  let members ← json.members?
  let fields ← (Json.obj members).record? fieldNames
  return {
    name := ← fields.optional "name" Json.string?
    generateName := ← fields.optional "generateName" Json.string?
    «namespace» := ← fields.optional "namespace" Json.string?
    labels := ← fields.optional "labels" (Json.dictionary? Json.string?)
    annotations := ← fields.optional "annotations" (Json.dictionary? Json.string?)
    finalizers := ← fields.optional "finalizers" (Json.list? Json.string?)
    ownerReferences := ← fields.optional "ownerReferences" (Json.list? OwnerReference.decode)
    deletionTimestamp := ← fields.optional "deletionTimestamp" time?
    resourceVersion := ← fields.optional "resourceVersion" Json.string?
    uid := ← fields.optional "uid" Json.string?
    generation := ← fields.optional "generation" Json.int64? }

/-- Writes metadata. -/
def encode (m : Metadata) : Json :=
  Json.ofMembers [
    ("name", Json.ifSome .str m.name),
    ("generateName", Json.ifSome .str m.generateName),
    ("namespace", Json.ifSome .str m.namespace),
    ("labels", Json.ifSome (Json.ofDictionary .str) m.labels),
    ("annotations", Json.ifSome (Json.ofDictionary .str) m.annotations),
    ("finalizers", Json.ifSome (fun xs => .arr (xs.map .str)) m.finalizers),
    ("ownerReferences",
      Json.ifSome (fun xs => .arr (xs.map OwnerReference.encode)) m.ownerReferences),
    ("deletionTimestamp", Json.ifSome (fun t => .str t.toSecondsText) m.deletionTimestamp),
    ("resourceVersion", Json.ifSome .str m.resourceVersion),
    ("uid", Json.ifSome .str m.uid),
    ("generation", Json.ifSome (fun n => .int n.toInt) m.generation)]

end Metadata

end MachineProvider
