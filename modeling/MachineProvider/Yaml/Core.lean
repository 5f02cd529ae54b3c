import MachineProvider.Text.Digit
import MachineProvider.Yaml.Node
import MachineProvider.Yaml.Tag

/-!
# Typed values of YAML documents

What a node stands for depends on what is expected. A scalar can always be read as text. As a number
or a truth value it must be plain, or a literal block with the right tag. A plain scalar that is not
written at all is an empty record.
-/

namespace MachineProvider.Yaml

/-- A place in a document. -/
structure Place where
  document : Document
  node : Node
  deriving Inhabited

namespace Place

/-- The node that stands at a place. -/
def target? (p : Place) : Option Node := p.document.resolve? p.node

/-- The text of a scalar. -/
def text? (p : Place) : Option String :=
  match p.target? with
  | some (.scalar _ _ text) => some text
  | _ => none

/-- The text of a scalar that can be a value of a type of the core schema. -/
def typed? (p : Place) (type : String) : Option String :=
  match p.target? with
  | some (.scalar _ .plain text) => some text
  | some (.scalar (some tag) .literal text) => if tag = coreTag type then some text else none
  | _ => none

/-- A truth value. -/
def bool? (p : Place) : Option Bool :=
  (p.typed? "bool").bind fun text =>
    if text = "true" || text = "True" || text = "TRUE" then some true
    else if text = "false" || text = "False" || text = "FALSE" then some false
    else none

/-- A number that is not negative, in decimal, or with a sign for its base. A decimal number has no
leading zeros. -/
def number? (text : String) : Option Nat :=
  let chars := match text.toList with
    | '+' :: rest => rest
    | all => all
  match chars with
  | '0' :: 'x' :: rest => Text.number? 16 rest
  | '0' :: 'o' :: rest => Text.number? 8 rest
  | '0' :: 'b' :: rest => Text.number? 2 rest
  | '0' :: _ :: _ => none
  | all => Text.number? 10 all

/-- A number that is not negative and smaller than the given one. -/
def natBelow? (p : Place) (bound : Nat) : Option Nat :=
  ((p.typed? "int").bind number?).filter (· < bound)

/-- Whether a text is a way to write that there is nothing. -/
def isNull (text : String) : Bool :=
  text = "null" || text = "Null" || text = "NULL" || text = "~"

/-- A text that may be missing. A tag says that a plain scalar is a text even if it looks as if
there was nothing. -/
def optionalText? (p : Place) : Option (Option String) :=
  match p.target? with
  | some (.scalar none .plain text) =>
    some (if text.isEmpty || isNull text then none else some text)
  | some (.scalar (some tag) .plain text) =>
    if tag = coreTag "null" then if isNull text then some none else none
    else some (some text)
  | some (.scalar _ _ text) => some (some text)
  | _ => none

/-- The values of the keys in a mapping with the given key. -/
def valuesOf (d : Document) (name : String) (entries : List (Node × Node)) : List Place :=
  entries.filterMap fun (key, value) =>
    if Place.text? ⟨d, key⟩ = some name then some ⟨d, value⟩ else none

/-- The fields of a record whose declared names are given. All keys must be texts, and none of the
declared ones may be repeated. -/
def record? (p : Place) (names : List String) : Option (String → Option Place) :=
  match p.target? with
  | some (.mapping entries) =>
    let d := p.document
    let keysAreTexts := entries.all fun (key, _) => (Place.text? ⟨d, key⟩).isSome
    if keysAreTexts && names.all fun name => (valuesOf d name entries).length ≤ 1 then
      some fun name => (valuesOf d name entries).head?
    else none
  | some (.scalar _ .plain "") => some fun _ => none
  | _ => none

end Place

/-- The topmost place of a document; a document without text is an empty record. -/
def Document.top (d : Document) : Place := ⟨d, d.root.getD .empty⟩

end MachineProvider.Yaml
