import MachineProvider.Object.Metadata

/-!
# Objects of the API server

An object has metadata, a specification that says what is wanted, and possibly a status that says
what was observed. A finalizer on an object keeps it from going away while it has to be cleaned up.
-/

namespace MachineProvider

/-- An object of the API server. -/
structure Object (σ τ : Type) where
  metadata : Metadata := {}
  spec : σ
  status : Option τ := none
  deriving DecidableEq

namespace Object

variable {σ τ : Type}

instance [Inhabited σ] : Inhabited (Object σ τ) := ⟨{ spec := default }⟩

/-- Whether the object carries a finalizer. -/
def hasFinalizer (o : Object σ τ) (finalizer : String) : Bool :=
  o.metadata.finalizerList.contains finalizer

/-- The object with a finalizer at the end of its finalizers. -/
def pushFinalizer (o : Object σ τ) (finalizer : String) : Object σ τ :=
  { o with metadata.finalizers := some (o.metadata.finalizerList ++ [finalizer]) }

/-- The object with a finalizer, which is put at the end when it is not there yet. -/
def addFinalizer (o : Object σ τ) (finalizer : String) : Object σ τ :=
  if o.hasFinalizer finalizer then o else o.pushFinalizer finalizer

/-- The object without a finalizer. The finalizers count as set afterwards. -/
def removeFinalizer (o : Object σ τ) (finalizer : String) : Object σ τ :=
  { o with metadata.finalizers := some (o.metadata.finalizerList.filter (· != finalizer)) }

end Object

/-- A reference to the object behind an event. -/
structure ObjectReference where
  apiVersion : String
  kind : String
  name : Option String
  «namespace» : Option String
  uid : Option String
  deriving DecidableEq, Repr

/-- The type that an object is written with. -/
structure ObjectType where
  apiVersion : String
  kind : String
  /-- The name of the resource in requests. -/
  plural : String

namespace ObjectType

/-- A reference to an object of this type. -/
def reference (t : ObjectType) (m : Metadata) : ObjectReference :=
  { apiVersion := t.apiVersion, kind := t.kind
    name := m.name, «namespace» := m.namespace, uid := m.uid }

/-- Reads an object with the given readers for its specification and its status. -/
def decode {σ τ : Type} (spec : Json → Option σ) (status : Json → Option τ) (json : Json) :
    Option (Object σ τ) := do
  let fields ← json.record? ["metadata", "spec", "status"]
  return {
    metadata := ← fields.required "metadata" Metadata.decode
    spec := ← fields.required "spec" spec
    status := ← fields.optional "status" status }

/-- Writes an object with its type. -/
def encode {σ τ : Type} (t : ObjectType) (spec : σ → Json) (status : τ → Json) (o : Object σ τ) :
    Json :=
  Json.ofMembers [
    ("apiVersion", some (.str t.apiVersion)),
    ("kind", some (.str t.kind)),
    ("metadata", some o.metadata.encode),
    ("spec", some (spec o.spec)),
    ("status", Json.ifSome status o.status)]

end ObjectType

end MachineProvider
