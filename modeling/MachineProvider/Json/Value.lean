/-!
# JSON values

The values that are exchanged with the API server and with the cloud. A number is exact: an
integer of at most 64 bits is `int`, and every other number keeps its text. The members of an
object stay in the order in which they were written.
-/

namespace MachineProvider

/-- A JSON value. -/
inductive Json where
  | null
  | bool (value : Bool)
  | int (value : Int)
  | decimal (text : String)
  | str (value : String)
  | arr (items : List Json)
  | obj (members : List (String × Json))
  deriving Repr, Inhabited, BEq

namespace Json

/-- The value of the last member with the given name; nothing when this is not an object. -/
def find? (name : String) : Json → Option Json
  | obj members => (members.reverse.find? (·.1 == name)).map (·.2)
  | _ => none

/-- The value reached by following member names. -/
def path? (names : List String) (value : Json) : Option Json :=
  names.foldlM (fun v name => v.find? name) value

/-- Sets a member, in its place when there is one of this name and at the end otherwise. -/
def setMember (name : String) (value : Json) : List (String × Json) → List (String × Json)
  | [] => [(name, value)]
  | (key, old) :: rest =>
    if key = name then (name, value) :: rest else (key, old) :: setMember name value rest

/-- The object with one member set; a value that is no object is replaced by one. -/
def set (target : Json) (name : String) (value : Json) : Json :=
  match target with
  | obj members => obj (setMember name value members)
  | _ => obj [(name, value)]

/-- The object without the members of one name. -/
def erase (name : String) : Json → Json
  | obj members => obj (members.filter (·.1 != name))
  | other => other

/-- The text of a string value. -/
def asString? : Json → Option String
  | str value => some value
  | _ => none

/-- The members of an object. -/
def members? : Json → Option (List (String × Json))
  | obj members => some members
  | _ => none

/-- An object of the members that have a value. -/
def ofMembers (members : List (String × Option Json)) : Json :=
  obj (members.filterMap fun (name, value) => value.map (name, ·))

mutual
/-- Merges a patch into a value (RFC 7386): members of an object patch are merged one by one
and `null` removes, any other patch replaces. -/
def mergePatch (target : Json) : Json → Json
  | obj members =>
    match target with
    | obj old => obj (mergeMembers old members)
    | _ => obj (mergeMembers [] members)
  | other => other

/-- Merges the members of a patch into the members of an object. -/
def mergeMembers (old : List (String × Json)) : List (String × Json) → List (String × Json)
  | [] => old
  | (name, null) :: rest => mergeMembers (old.filter (·.1 != name)) rest
  | (name, patch) :: rest =>
    let current := ((old.find? (·.1 == name)).map (·.2)).getD null
    mergeMembers (setMember name (mergePatch current patch) old) rest
end

end Json

end MachineProvider
