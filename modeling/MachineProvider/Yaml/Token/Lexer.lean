import MachineProvider.Yaml.Scalar
import MachineProvider.Yaml.Tag

/-!
# Finding the tokens of a YAML text

In block collections the indentation says where a collection begins and ends. That something is a
key is only known when a colon follows it on the same line and not too far away; until then its
place is kept in mind, and the tokens that make it a key are put there afterwards.
-/

namespace MachineProvider.Yaml

/-- A place at which a key may have begun. -/
structure KeyStart where
  /-- How many tokens come before it. -/
  number : Nat
  index : Nat
  line : Nat
  column : Nat
  /-- Whether nothing but a key can be there. -/
  required : Bool
  deriving Inhabited

/-- The state of the search for tokens. -/
structure Lexer where
  cursor : Cursor
  tokens : Array Token := #[]
  /-- The columns of the open block collections, the innermost first. -/
  indents : List Nat := []
  /-- The places at which a key may have begun: in the innermost collection and, for each flow
  collection that is open, in the one around it. -/
  keys : List (Option KeyStart) := [none]
  /-- Whether a key can begin here. -/
  keyAllowed : Bool := true
  deriving Inhabited

namespace Lexer

/-- Whether the cursor is in a flow collection. -/
def inFlow (l : Lexer) : Bool := 1 < l.keys.length

/-- The column of the innermost block collection, -1 when there is none. -/
def indent (l : Lexer) : Int :=
  match l.indents with
  | column :: _ => column
  | [] => -1

/-- Adds a token. -/
def push (l : Lexer) (token : Token) : Lexer :=
  { l with tokens := l.tokens.push token }

/-- Adds a token of one character. -/
def pushMark (l : Lexer) (token : Token) : Lexer :=
  { l.push token with cursor := l.cursor.skip 1 }

/-- Ends the block collections that are indented deeper than a column. -/
def closeTo (column : Int) : List Nat → Array Token → List Nat × Array Token
  | [], tokens => ([], tokens)
  | indent :: rest, tokens =>
    if column < indent then closeTo column rest (tokens.push .blockEnd)
    else (indent :: rest, tokens)

/-- Ends the block collections that a token at a column does not belong to. -/
def unroll (l : Lexer) (column : Int) : Lexer :=
  if l.inFlow then l
  else
    let (indents, tokens) := closeTo column l.indents l.tokens
    { l with indents, tokens }

/-- Begins a block collection at a column, unless there is one. Its token is put at a place. -/
def roll (l : Lexer) (column number : Nat) (token : Token) : Lexer :=
  if l.inFlow || (column : Int) ≤ l.indent then l
  else
    { l with
      indents := column :: l.indents
      tokens := l.tokens.insertIdxIfInBounds number token }

/-- Forgets where a key may have begun, which is a fault when there must be one. -/
def forgetKey? (l : Lexer) : Option Lexer :=
  match l.keys with
  | some start :: outer => if start.required then none else some { l with keys := none :: outer }
  | _ => some l

/-- Keeps in mind that a key may begin at the cursor. -/
def noteKey? (l : Lexer) : Option Lexer :=
  if !l.keyAllowed then some l
  else do
    let c := l.cursor
    let start : KeyStart :=
      { number := l.tokens.size, index := c.index, line := c.line, column := c.column
        required := !l.inFlow && l.indent = c.column }
    let l ← l.forgetKey?
    return { l with keys := some start :: l.keys.tail }

/-- How many characters a key can have. -/
def longestKey : Nat := 1024

/-- Whether what may have begun as a key can no longer be one at a cursor. -/
def KeyStart.isStale (start : KeyStart) (c : Cursor) : Bool :=
  start.line < c.line || start.index + longestKey < c.index

/-- Forgets the places of keys that are too far away. -/
def forgetStaleKeys? (l : Lexer) : Option Lexer := do
  let keys ← l.keys.mapM fun key =>
    match key with
    | none => some none
    | some start =>
      if KeyStart.isStale start l.cursor then if start.required then none else some none
      else some (some start)
  return { l with keys }

/-- The character that may stand in front of a text, or of a line. -/
def byteOrderMark : Char := '\uFEFF'

/-- Moves over blanks, comments and line breaks. A tab is no indentation: in a block collection it
only counts as blank where no key can begin. -/
def skipToToken : Nat → Lexer → Lexer
  | 0, l => l
  | fuel + 1, l =>
    let tabs := l.inFlow || !l.keyAllowed
    let c := l.cursor
    let c := if c.column = 0 && c.isAt byteOrderMark then c.skip 1 else c
    let c := c.skipWhile fun char => char = ' ' || (tabs && char = '\t')
    let c := if c.isAt '#' then c.skipWhile fun _ => true else c
    match c.takeBreak? with
    | some (_, c) =>
      skipToToken fuel { l with cursor := c, keyAllowed := l.keyAllowed || !l.inFlow }
    | none => { l with cursor := c }

/-- Before a directive, a document marker or the end: no collection and no key is open. -/
def settle? (l : Lexer) : Option Lexer := do
  let l ← (l.unroll (-1)).forgetKey?
  return { l with keyAllowed := false }

/-- The end of the text. -/
def atEnd? (l : Lexer) : Option Lexer := do
  let l ← l.settle?
  return l.push .streamEnd

/-- A directive. -/
def atDirective? (l : Lexer) : Option Lexer := do
  let l ← l.settle?
  let (token, cursor) ← directive? l.cursor
  return { l.push token with cursor }

/-- A marker at the beginning or the end of a document. -/
def atMarker? (l : Lexer) (token : Token) : Option Lexer := do
  let l ← l.settle?
  return { l.push token with cursor := l.cursor.skip 3 }

/-- The beginning of a flow collection. -/
def atFlowStart? (l : Lexer) (token : Token) : Option Lexer := do
  let l ← l.noteKey?
  return { l with keys := none :: l.keys, keyAllowed := true }.pushMark token

/-- The end of a flow collection. -/
def atFlowEnd? (l : Lexer) (token : Token) : Option Lexer := do
  let l ← l.forgetKey?
  let keys := if l.inFlow then l.keys.tail else l.keys
  return { l with keys, keyAllowed := false }.pushMark token

/-- A comma in a flow collection. -/
def atFlowEntry? (l : Lexer) : Option Lexer := do
  let l ← l.forgetKey?
  return { l with keyAllowed := true }.pushMark .flowEntry

/-- Begins a block collection at the cursor where one may begin. -/
def open? (l : Lexer) (token : Token) : Option Lexer :=
  if l.inFlow then some l
  else if !l.keyAllowed then none
  else some (l.roll l.cursor.column l.tokens.size token)

/-- A dash before an entry of a block sequence. -/
def atBlockEntry? (l : Lexer) : Option Lexer := do
  let l ← l.open? .blockSequenceStart
  let l ← l.forgetKey?
  return { l with keyAllowed := true }.pushMark .blockEntry

/-- A question mark before a key. -/
def atKey? (l : Lexer) : Option Lexer := do
  let l ← l.open? .blockMappingStart
  let l ← l.forgetKey?
  return { l with keyAllowed := !l.inFlow }.pushMark .key

/-- A colon before a value. What may have been a key before it is one. -/
def atValue? (l : Lexer) : Option Lexer :=
  match l.keys with
  | some start :: outer =>
    let l := { l with
      tokens := l.tokens.insertIdxIfInBounds start.number .key
      keys := none :: outer
      keyAllowed := false }
    some ((l.roll start.column start.number .blockMappingStart).pushMark .value)
  | _ => do
    let l ← l.open? .blockMappingStart
    return { l with keyAllowed := !l.inFlow }.pushMark .value

/-- A token at which a key may begin and after which none can. -/
def atKeyPart? (l : Lexer) (read : Cursor → Option (Token × Cursor)) : Option Lexer := do
  let l ← l.noteKey?
  let (token, cursor) ← read l.cursor
  return { l.push token with cursor, keyAllowed := false }

/-- An alias or an anchor. -/
def atName? (l : Lexer) (token : String → Token) : Option Lexer :=
  l.atKeyPart? fun c => (anchorName? c).map fun (name, after) => (token name, after)

/-- A quoted scalar. -/
def atQuoted? (l : Lexer) (style : ScalarStyle) (read : Cursor → Option Scanned) : Option Lexer :=
  l.atKeyPart? fun c => (read c).map fun s => (.scalar style (String.ofList s.text), s.cursor)

/-- A block scalar. -/
def atBlockScalar? (l : Lexer) (style : ScalarStyle) : Option Lexer := do
  let l ← l.forgetKey?
  let s ← block? (style = .literal) l.indent l.cursor
  let l := l.push (.scalar style (String.ofList s.text))
  return { l with cursor := s.cursor, keyAllowed := true }

/-- A plain scalar. -/
def atPlain? (l : Lexer) : Option Lexer := do
  let l ← l.noteKey?
  let s ← plain? l.inFlow (l.indent + 1).toNat l.cursor
  return { l.push (.scalar .plain (String.ofList s.text)) with
    cursor := s.cursor, keyAllowed := s.broken }

/-- Whether a character can only be a mark, or cannot begin a token at all. -/
def isReserved (c : Char) : Bool :=
  isFlowIndicator c ||
    ['-', '?', ':', '#', '&', '*', '!', '|', '>', '\'', '"', '%', '@', '\x60'].contains c

/-- Whether a plain scalar begins at a cursor. -/
def beginsPlain (l : Lexer) (char : Char) : Bool :=
  let after := l.cursor.rest.tail
  !(isSpace char || isBreak char || isReserved char) ||
    (char = '-' && !after.head?.any isSpace) ||
    (!l.inFlow && (char = '?' || char = ':') && !endsWord after)

/-- The token that begins with a character at the cursor. -/
def atCharacter? (l : Lexer) (char : Char) : Option Lexer :=
  let alone := endsWord l.cursor.rest.tail
  if l.cursor.column = 0 && char = '%' then l.atDirective?
  else if l.cursor.isAtMarker '-' then l.atMarker? .documentStart
  else if l.cursor.isAtMarker '.' then l.atMarker? .documentEnd
  else if char = '[' then l.atFlowStart? .flowSequenceStart
  else if char = '\x7b' then l.atFlowStart? .flowMappingStart
  else if char = ']' then l.atFlowEnd? .flowSequenceEnd
  else if char = '\x7d' then l.atFlowEnd? .flowMappingEnd
  else if char = ',' then l.atFlowEntry?
  else if char = '-' && alone then l.atBlockEntry?
  else if char = '?' && (l.inFlow || alone) then l.atKey?
  else if char = ':' && (l.inFlow || alone) then l.atValue?
  else if char = '*' then l.atName? .alias
  else if char = '&' then l.atName? .anchor
  else if char = '!' then l.atKeyPart? (tag? l.inFlow)
  else if char = '|' && !l.inFlow then l.atBlockScalar? .literal
  else if char = '>' && !l.inFlow then l.atBlockScalar? .folded
  else if char = '\'' then l.atQuoted? .singleQuoted singleQuoted?
  else if char = '"' then l.atQuoted? .doubleQuoted doubleQuoted?
  else if l.beginsPlain char then l.atPlain?
  else none

/-- Finds the next token. -/
def next? (l : Lexer) : Option Lexer := do
  let l := skipToToken (l.cursor.rest.length + 1) l
  let l ← l.forgetStaleKeys?
  let l := l.unroll l.cursor.column
  match l.cursor.head? with
  | none => l.atEnd?
  | some char => l.atCharacter? char

/-- Finds the tokens up to the end of the text. -/
def run? : Nat → Lexer → Option (Array Token)
  | 0, _ => none
  | fuel + 1, l => do
    let l ← l.next?
    if l.tokens.back? = some .streamEnd then return l.tokens else run? fuel l

end Lexer

/-- The tokens of a text. A byte order mark in front of it is not part of it. -/
def tokens? (text : String) : Option (List Token) :=
  let all := text.toList
  let chars := if all.head? = some Lexer.byteOrderMark then all.tail else all
  if chars.all isAllowed then
    (Lexer.run? (chars.length + 2) { cursor := { rest := chars } }).map Array.toList
  else none

end MachineProvider.Yaml
