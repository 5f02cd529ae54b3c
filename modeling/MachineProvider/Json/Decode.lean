import MachineProvider.Json.Value
import MachineProvider.Dictionary

/-!
# Reading records from JSON values

Typed records are read field by field. A record is written as an object, whose unknown members are
ignored, or as an array of its first fields in their declared order. A field may be required, have
a default that stands in when it is missing, or be optional, in which case `null` means that it is
missing. Writing a record leaves out the fields that have no value (`Json.ofMembers`).
-/

namespace MachineProvider.Json

/-- The fields that are present in a record, by name. -/
abbrev Fields := String → Option Json

/-- The fields of a record whose declared names are given. A name that is repeated in the object,
or an array longer than the record, is an error. -/
def record? (names : List String) : Json → Option Fields
  | obj members =>
    if names.all fun name => (members.filter (·.1 == name)).length ≤ 1 then
      some fun name => (members.find? (·.1 == name)).map (·.2)
    else none
  | arr items =>
    if items.length ≤ names.length then some fun name => items[names.idxOf name]? else none
  | _ => none

/-- A field that must be present. -/
def Fields.required {α : Type} (fields : Fields) (name : String) (read : Json → Option α) :
    Option α :=
  fields name >>= read

/-- A field that takes the given value when it is missing. -/
def Fields.withDefault {α : Type} (fields : Fields) (name : String) (read : Json → Option α)
    (value : α) : Option α :=
  match fields name with
  | none => some value
  | some json => read json

/-- A field that may be missing or `null`. -/
def Fields.optional {α : Type} (fields : Fields) (name : String) (read : Json → Option α) :
    Option (Option α) :=
  match fields name with
  | none => some none
  | some null => some none
  | some json => (read json).map some

/-- A truth value. -/
def bool? : Json → Option Bool
  | bool value => some value
  | _ => none

/-- A text. -/
def string? : Json → Option String
  | str value => some value
  | _ => none

/-- An integer between two bounds, both included. -/
def intWithin? (low high : Int) : Json → Option Int
  | int value => if low ≤ value && value ≤ high then some value else none
  | _ => none

/-- A signed integer of 32 bits. -/
def int32? (json : Json) : Option Int32 :=
  (intWithin? Int32.minValue.toInt Int32.maxValue.toInt json).map Int32.ofInt

/-- A signed integer of 64 bits. -/
def int64? (json : Json) : Option Int64 :=
  (intWithin? Int64.minValue.toInt Int64.maxValue.toInt json).map Int64.ofInt

/-- An unsigned integer of 64 bits. -/
def uint64? (json : Json) : Option UInt64 :=
  (intWithin? 0 (UInt64.size - 1) json).map fun value => UInt64.ofNat value.toNat

/-- An unsigned integer of 32 bits. -/
def uint32? (json : Json) : Option UInt32 :=
  (intWithin? 0 (UInt32.size - 1) json).map fun value => UInt32.ofNat value.toNat

/-- An unsigned integer of 16 bits. -/
def uint16? (json : Json) : Option UInt16 :=
  (intWithin? 0 (UInt16.size - 1) json).map fun value => UInt16.ofNat value.toNat

/-- An array, each of whose items is read alike. -/
def list? {α : Type} (read : Json → Option α) : Json → Option (List α)
  | arr items => items.mapM read
  | _ => none

/-- An object as a dictionary, each of whose values is read alike. -/
def dictionary? {α : Type} (read : Json → Option α) : Json → Option (Dictionary α)
  | obj members =>
    (members.mapM fun (m : String × Json) => (read m.2).map (m.1, ·)).map Dictionary.ofList
  | _ => none

/-- One of a few names. A name may also be written as an object with that one member, whose value
is `null`. -/
def name? {α : Type} (ofName : String → Option α) : Json → Option α
  | str name => ofName name
  | obj [(name, null)] => ofName name
  | _ => none

/-- Whether a member, if it is there, is the given text. -/
def isTextIfPresent (json : Json) (name text : String) : Bool :=
  match json.find? name with
  | none => true
  | some value => value == str text

/-- A dictionary as an object. -/
def ofDictionary {α : Type} (write : α → Json) (d : Dictionary α) : Json :=
  obj (d.entries.map fun (key, value) => (key, write value))

/-- A field that is left out when it has no value. -/
def ifSome {α : Type} (write : α → Json) (value : Option α) : Option Json :=
  value.map write

/-- A text that is left out when it is empty. -/
def ifText (value : String) : Option Json :=
  if value.isEmpty then none else some (str value)

/-- A list that is left out when it is empty. -/
def ifItems {α : Type} (write : α → Json) (items : List α) : Option Json :=
  if items.isEmpty then none else some (arr (items.map write))

/-- A dictionary that is left out when it is empty. -/
def ifEntries {α : Type} (write : α → Json) (d : Dictionary α) : Option Json :=
  if d.isEmpty then none else some (ofDictionary write d)

end MachineProvider.Json
