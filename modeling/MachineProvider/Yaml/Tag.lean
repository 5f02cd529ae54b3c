import MachineProvider.Json.Parser
import MachineProvider.Text.Digit
import MachineProvider.Text.Utf8
import MachineProvider.Yaml.Cursor
import MachineProvider.Yaml.Token

/-!
# Tags, names and directives of YAML

A tag is written as a handle and a suffix; what the handle stands for is said by a directive, or is
one of two that are always there. Directives stand on lines of their own before a document.
-/

namespace MachineProvider.Yaml

/-- What the handle `!!` stands for unless a directive says otherwise. -/
def coreUri : String := "tag:yaml.org,2002:"

/-- The handles that are always there. -/
def standardHandles : List (String × String) := [("!", "!"), ("!!", coreUri)]

/-- The tag of a type of the core schema. -/
def coreTag (name : String) : String := coreUri ++ name

/-- Whether a character can be part of the suffix of a tag. -/
def isTagCharacter (verbatim : Bool) (c : Char) : Bool :=
  isWord c || ";/?:@&=+$.%!~*'()".toList.contains c ||
    (verbatim && (c = ',' || c = '[' || c = ']'))

/-- The bytes that a text of percent escapes begins with. -/
def escapedBytes : List Char → List UInt8
  | '%' :: a :: b :: rest =>
    match Text.hexDigit? a, Text.hexDigit? b with
    | some x, some y => UInt8.ofNat (x * 16 + y) :: escapedBytes rest
    | _, _ => []
  | _ => []

/-- How many bytes a character has in UTF-8, going by its first. -/
def utf8Width (first : UInt8) : Nat :=
  if first < 0x80 then 1
  else if 0xC0 ≤ first && first < 0xE0 then 2
  else if 0xE0 ≤ first && first < 0xF0 then 3
  else if 0xF0 ≤ first && first < 0xF8 then 4
  else 0

/-- A character that is written as percent escapes, and how long it is written. -/
def escapedCharacter? (chars : List Char) : Option (List UInt8 × Nat) := do
  let bytes := escapedBytes chars
  let first ← bytes.head?
  let width := utf8Width first
  let own := bytes.take width
  if width = 0 || own.length < width || own.tail.any (fun b => b &&& 0xC0 != 0x80) then none
  else return (own, 3 * width)

/-- The suffix of a tag, with its percent escapes resolved. -/
def tagSuffix? (verbatim : Bool) : Nat → Cursor → List UInt8 → Option (List UInt8 × Cursor)
  | 0, c, bytes => some (bytes, c)
  | fuel + 1, c, bytes =>
    match c.head? with
    | none => some (bytes, c)
    | some char =>
      if char = '%' then do
        let (own, length) ← escapedCharacter? c.rest
        tagSuffix? verbatim fuel (c.skip length) (bytes ++ own)
      else if isTagCharacter verbatim char then
        tagSuffix? verbatim fuel (c.skip 1) (bytes ++ [UInt8.ofNat char.toNat])
      else some (bytes, c)

/-- The suffix of a tag after what is known of it. -/
def suffixAfter? (verbatim : Bool) (known : List Char) (c : Cursor) : Option (String × Cursor) := do
  let start := known.map fun char => UInt8.ofNat char.toNat
  let (bytes, c) ← tagSuffix? verbatim (c.rest.length + 1) c start
  return (String.ofList (Text.lossyChars none bytes), c)

/-- The handle at a cursor: an exclamation mark, a name, and perhaps another mark. -/
def handle (c : Cursor) : List Char × Cursor :=
  let (name, after) := (c.skip 1).takeWhile isWord
  if after.isAt '!' then ('!' :: (name ++ ['!']), after.skip 1) else ('!' :: name, after)

/-- Whether a handle is one with a mark at both ends. -/
def isFullHandle (handle : List Char) : Bool :=
  2 ≤ handle.length && handle.getLast? = some '!'

/-- The tag at a cursor. -/
def tag? (inFlow : Bool) (c : Cursor) : Option (Token × Cursor) := do
  let (token, c) ←
    if (c.skip 1).isAt '<' then do
      let start := c.skip 2
      let (suffix, c) ← suffixAfter? true [] start
      if c.index = start.index || !c.isAt '>' then none
      else some (Token.tag "" suffix, c.skip 1)
    else do
      let (mark, after) := handle c
      if isFullHandle mark then do
        let (suffix, c) ← suffixAfter? false [] after
        if c.index = after.index then none else some (Token.tag (String.ofList mark) suffix, c)
      else do
        let (suffix, c) ← suffixAfter? false mark.tail after
        some (if suffix.isEmpty then Token.tag "" "!" else Token.tag "!" suffix, c)
  if endsWord c.rest || (inFlow && c.isAt ',') then some (token, c) else none

/-- The name of an anchor, which a blank, the end or one of some marks follows. -/
def anchorName? (c : Cursor) : Option (String × Cursor) :=
  let (name, after) := (c.skip 1).takeWhile isWord
  let ended := endsWord after.rest || after.head?.any fun d =>
    ['?', ':', ',', ']', '\x7d', '%', '@', '\x60'].contains d
  if !name.isEmpty && ended then some (String.ofList name, after) else none

/-! ## Directives -/

/-- A number of at most nine digits. -/
def versionNumber? (c : Cursor) : Option (Nat × Cursor) :=
  let (digits, after) := c.takeWhile Char.isDigit
  if digits.isEmpty || 9 < digits.length then none
  else some (Text.decimal digits, after)

/-- What the directive `YAML` says. -/
def versionDirective? (c : Cursor) : Option (Token × Cursor) := do
  let (major, c) ← versionNumber? (c.skipWhile isSpace)
  if !c.isAt '.' then none
  else
    let (minor, c) ← versionNumber? (c.skip 1)
    return (.version major minor, c)

/-- What the directive `TAG` says. -/
def handleDirective? (c : Cursor) : Option (Token × Cursor) := do
  let c := c.skipWhile isSpace
  if !c.isAt '!' then none
  else
    let (mark, c) := handle c
    if (mark != ['!'] && mark.getLast? != some '!') || !c.head?.any isSpace then none
    else
      let start := c.skipWhile isSpace
      let (uri, c) ← suffixAfter? true [] start
      if c.index = start.index || !endsWord c.rest then none
      else return (.tagHandle (String.ofList mark) uri, c)

/-- The directive at a cursor. -/
def directive? (c : Cursor) : Option (Token × Cursor) := do
  let (name, c) := (c.skip 1).takeWhile isWord
  if !endsWord c.rest then none
  else
    let (token, c) ←
      if name = "YAML".toList then versionDirective? c
      else if name = "TAG".toList then handleDirective? c
      else none
    let c := c.skipWhile isSpace
    let c := if c.isAt '#' then c.skipWhile fun _ => true else c
    if c.atLineEnd then some (token, c.skipBreak) else none

end MachineProvider.Yaml
