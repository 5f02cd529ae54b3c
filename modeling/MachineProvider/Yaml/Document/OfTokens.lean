import MachineProvider.Yaml.Node
import MachineProvider.Yaml.Tag
import MachineProvider.Yaml.Token.Lexer

/-!
# Documents of tokens

A text holds at most one document here. The number of an anchor is how many names are in use when it
is set. A name that is set again takes a number in this way too, which the next new name then shares
with it; an alias stands for the node that took its number last.
-/

namespace MachineProvider.Yaml

/-- What is left of the tokens, and what is known of the anchors. -/
structure Reading where
  tokens : List Token
  /-- What the handles of tags stand for. -/
  handles : List (String × String) := standardHandles
  /-- The numbers of the names that are in use. -/
  names : List (String × Nat) := []
  /-- For each number the places at which it was taken, the last first. -/
  places : List (Nat × Nat) := []
  /-- The anchored nodes by their places. -/
  nodes : List (Nat × Node) := []
  deriving Inhabited

namespace Reading

/-- Sets an anchor. The result is its place. -/
def anchor (r : Reading) (name : String) : Nat × Reading :=
  let number := r.names.length
  let place := r.places.length
  let others := r.names.filter (·.1 != name)
  (place, { r with names := (name, number) :: others, places := (number, place) :: r.places })

/-- The tag that a handle and a suffix make. -/
def tag? (r : Reading) (handle suffix : String) : Option String :=
  if handle.isEmpty then some suffix else (r.handles.lookup handle).map (· ++ suffix)

/-- What is said of a node before it begins: its anchor and its tag, in any order. -/
def properties? (r : Reading) : Option (Option String × Option String × Reading) :=
  match r.tokens with
  | .anchor name :: .tag handle suffix :: rest =>
    (r.tag? handle suffix).map fun tag => (some name, some tag, { r with tokens := rest })
  | .tag handle suffix :: .anchor name :: rest =>
    (r.tag? handle suffix).map fun tag => (some name, some tag, { r with tokens := rest })
  | .anchor name :: rest => some (some name, none, { r with tokens := rest })
  | .tag handle suffix :: rest =>
    (r.tag? handle suffix).map fun tag => (none, some tag, { r with tokens := rest })
  | _ => some (none, none, r)

/-- Whether one of some tokens comes next. -/
def isBefore (r : Reading) (tokens : List Token) : Bool :=
  r.tokens.head?.any tokens.contains

/-- Moves over a token. -/
def skip (r : Reading) : Reading := { r with tokens := r.tokens.tail }

end Reading

/-- Where a node may stand, which decides what it may be. -/
inductive Context where
  /-- In a flow collection. -/
  | flow
  /-- Anywhere in a block collection. -/
  | block
  /-- In a block mapping, where a block sequence need not be indented. -/
  | mapping
  deriving DecidableEq, Repr, Inhabited

mutual
/-- Reads a node. -/
def node? : Nat → Context → Reading → Option (Node × Reading)
  | 0, _, _ => none
  | fuel + 1, context, r =>
    match r.tokens with
    | .alias name :: rest =>
      (r.names.lookup name).map fun anchor => (.alias anchor, { r with tokens := rest })
    | _ => do
      let (name, tag, r) ← r.properties?
      match name with
      | none => content? fuel context tag false r
      | some name =>
        let (place, r) := r.anchor name
        let (node, r) ← content? fuel context tag true r
        return (node, { r with nodes := (place, node) :: r.nodes })

/-- Reads what a node consists of. It may be missing when something was said of the node. -/
def content? : Nat → Context → Option String → Bool → Reading → Option (Node × Reading)
  | 0, _, _, _, _ => none
  | fuel + 1, context, tag, isAnchored, r =>
    let inBlock := context ≠ .flow
    match r.tokens with
    | .scalar style text :: rest => some (.scalar tag style text, { r with tokens := rest })
    | .flowSequenceStart :: rest => do
      let (items, r) ← flowItems? fuel true { r with tokens := rest }
      return (.sequence items, r)
    | .flowMappingStart :: rest => do
      let (entries, r) ← flowEntries? fuel true { r with tokens := rest }
      return (.mapping entries, r)
    | token :: rest =>
      if context = .mapping && token = .blockEntry then do
        let (items, r) ← looseItems? fuel r
        return (.sequence items, r)
      else if inBlock && token = .blockSequenceStart then do
        let (items, r) ← blockItems? fuel { r with tokens := rest }
        return (.sequence items, r)
      else if inBlock && token = .blockMappingStart then do
        let (entries, r) ← blockEntries? fuel { r with tokens := rest }
        return (.mapping entries, r)
      else if isAnchored || tag.isSome then some (.scalar tag .plain "", r)
      else none
    | [] => none

/-- Reads a node, which is empty when one of some tokens comes next. -/
def nodeUnless? : Nat → List Token → Context → Reading → Option (Node × Reading)
  | 0, _, _, _ => none
  | fuel + 1, ends, context, r =>
    if r.isBefore ends then some (.empty, r) else node? fuel context r

/-- Reads the items of a block sequence and its end. -/
def blockItems? : Nat → Reading → Option (List Node × Reading)
  | 0, _ => none
  | fuel + 1, r =>
    match r.tokens with
    | .blockEntry :: rest => do
      let (item, r) ← nodeUnless? fuel [.blockEntry, .blockEnd] .block { r with tokens := rest }
      let (items, r) ← blockItems? fuel r
      return (item :: items, r)
    | .blockEnd :: rest => some ([], { r with tokens := rest })
    | _ => none

/-- Reads the items of a block sequence that is not indented. -/
def looseItems? : Nat → Reading → Option (List Node × Reading)
  | 0, _ => none
  | fuel + 1, r =>
    match r.tokens with
    | .blockEntry :: rest => do
      let (item, r) ←
        nodeUnless? fuel [.blockEntry, .key, .value, .blockEnd] .block { r with tokens := rest }
      let (items, r) ← looseItems? fuel r
      return (item :: items, r)
    | _ => some ([], r)

/-- Reads the entries of a block mapping and its end. -/
def blockEntries? : Nat → Reading → Option (List (Node × Node) × Reading)
  | 0, _ => none
  | fuel + 1, r =>
    match r.tokens with
    | .blockEnd :: rest => some ([], { r with tokens := rest })
    | .key :: rest => do
      let (key, r) ← nodeUnless? fuel [.key, .value, .blockEnd] .mapping { r with tokens := rest }
      blockValue? fuel key r
    | _ => none

/-- Reads the value of a key in a block mapping, and the entries after it. -/
def blockValue? : Nat → Node → Reading → Option (List (Node × Node) × Reading)
  | 0, _, _ => none
  | fuel + 1, key, r => do
    let (value, r) ← match r.tokens with
      | .value :: rest =>
        nodeUnless? fuel [.key, .value, .blockEnd] .mapping { r with tokens := rest }
      | _ => some (.empty, r)
    let (entries, r) ← blockEntries? fuel r
    return ((key, value) :: entries, r)

/-- Reads the items of a flow sequence and its end. -/
def flowItems? : Nat → Bool → Reading → Option (List Node × Reading)
  | 0, _, _ => none
  | fuel + 1, isFirst, r =>
    if r.isBefore [.flowSequenceEnd] then some ([], r.skip)
    else if !isFirst && !r.isBefore [.flowEntry] then none
    else
      let r := if isFirst then r else r.skip
      if r.isBefore [.flowSequenceEnd] then some ([], r.skip)
      else do
        let (item, r) ← if r.isBefore [.key] then pair? fuel r.skip else node? fuel .flow r
        let (items, r) ← flowItems? fuel false r
        return (item :: items, r)

/-- Reads an item of a flow sequence that is a mapping of one entry. A token that comes in place
of the key is left out. -/
def pair? : Nat → Reading → Option (Node × Reading)
  | 0, _ => none
  | fuel + 1, r => do
    let (key, r) ←
      if r.isBefore [.value, .flowEntry, .flowSequenceEnd] then some (.empty, r.skip)
      else node? fuel .flow r
    let (value, r) ←
      if r.isBefore [.value] then nodeUnless? fuel [.flowEntry, .flowSequenceEnd] .flow r.skip
      else some (.empty, r)
    return (.mapping [(key, value)], r)

/-- Reads the entries of a flow mapping and its end. -/
def flowEntries? : Nat → Bool → Reading → Option (List (Node × Node) × Reading)
  | 0, _, _ => none
  | fuel + 1, isFirst, r =>
    if r.isBefore [.flowMappingEnd] then some ([], r.skip)
    else if !isFirst && !r.isBefore [.flowEntry] then none
    else
      let r := if isFirst then r else r.skip
      if r.isBefore [.flowMappingEnd] then some ([], r.skip)
      else do
        let (entry, r) ← flowEntry? fuel r
        let (entries, r) ← flowEntries? fuel false r
        return (entry :: entries, r)

/-- Reads an entry of a flow mapping. A node that is no key has no value. -/
def flowEntry? : Nat → Reading → Option ((Node × Node) × Reading)
  | 0, _ => none
  | fuel + 1, r =>
    let ends : List Token := [.flowEntry, .flowMappingEnd]
    if r.isBefore [.key] then do
      let (key, r) ← nodeUnless? fuel (.value :: ends) .flow r.skip
      let (value, r) ←
        if r.isBefore [.value] then nodeUnless? fuel ends .flow r.skip else some (.empty, r)
      return ((key, value), r)
    else do
      let (key, r) ← node? fuel .flow r
      return ((key, .empty), r)
end

/-- Whether documents of a version can be read. -/
def isKnownVersion (major minor : Nat) : Bool :=
  major = 1 && (minor = 1 || minor = 2)

/-- Reads the directives before a document. No version and no handle may be set twice. -/
def directives? (versions : Nat) (own : List (String × String)) :
    List Token → Option (List (String × String) × List Token)
  | .version major minor :: rest =>
    if versions = 0 && isKnownVersion major minor then directives? 1 own rest else none
  | .tagHandle handle uri :: rest =>
    if (own.lookup handle).isSome then none else directives? versions (own ++ [(handle, uri)]) rest
  | rest => some (own ++ standardHandles, rest)

/-- Whether a document without a marker at its beginning begins with a token. -/
def beginsBare : Token → Bool
  | .version .. | .tagHandle .. | .documentStart | .streamEnd => false
  | _ => true

/-- Whether a document that has begun with a marker holds nothing before a token. -/
def endsDocument : Token → Bool
  | .documentEnd => true
  | token => !beginsBare token

/-- How deep the tokens of a text can be nested, counted in steps of reading them. -/
def depthLimit (tokens : List Token) : Nat := 6 * tokens.length + 16

/-- Reads the topmost node of a document. -/
def root? (r : Reading) : Option (Node × Reading) :=
  node? (depthLimit r.tokens) .block r

/-- The rest of a text after a document: nothing but markers of its end. -/
def isEnd (tokens : List Token) : Bool :=
  tokens.dropWhile (· = .documentEnd) = [.streamEnd]

/-- The document that was read, if nothing comes after it. -/
def finished? (root : Node) (r : Reading) : Option Document :=
  if isEnd r.tokens then
    let nodes := r.places.filterMap fun (number, place) =>
      (r.nodes.lookup place).map fun node => (number, node)
    some { root := some root, anchored := nodes }
  else none

/-- The document that tokens make. -/
def Document.ofTokens? (tokens : List Token) : Option Document :=
  match tokens with
  | [.streamEnd] => some { root := none }
  | token :: _ =>
    if beginsBare token then do
      let (root, r) ← root? { tokens }
      finished? root r
    else do
      let (handles, rest) ← directives? 0 [] tokens
      match rest with
      | .documentStart :: rest =>
        let r : Reading := { tokens := rest, handles }
        if rest.head?.any endsDocument then finished? .empty r
        else do
          let (root, r) ← root? r
          finished? root r
      | _ => none
  | [] => none

/-- The document that a text holds; nothing when it cannot be read, or holds more than one. -/
def Document.parse? (text : String) : Option Document :=
  tokens? text >>= Document.ofTokens?

end MachineProvider.Yaml
