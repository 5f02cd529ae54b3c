/-!
# Places in a YAML text

A `Cursor` is a place in a text, together with the line and the column that it is on. Lines end with
one of five line breaks; a carriage return and a line feed together are one break. All breaks but
the separators of lines and paragraphs are read as line feeds.
-/

namespace MachineProvider.Yaml

/-- Whether a character ends a line. -/
def isBreak (c : Char) : Bool :=
  c = '\n' || c = '\r' || c = '\u0085' || c = '\u2028' || c = '\u2029'

/-- Whether a character is a blank within a line. -/
def isSpace (c : Char) : Bool :=
  c = ' ' || c = '\t'

/-- Whether a character can be part of a name. -/
def isWord (c : Char) : Bool :=
  c.isAlphanum || c = '_' || c = '-'

/-- Whether a character can be part of a text at all. -/
def isAllowed (c : Char) : Bool :=
  let n := c.toNat
  n = 0x09 || n = 0x0A || n = 0x0D || (0x20 ≤ n && n ≤ 0x7E) || n = 0x85 ||
    (0xA0 ≤ n && n ≤ 0xFFFD) || 0x10000 ≤ n

/-- Whether the rest of a text begins with a blank, a break or its end. -/
def endsWord : List Char → Bool
  | [] => true
  | c :: _ => isSpace c || isBreak c

/-- A place in a text. -/
structure Cursor where
  rest : List Char
  /-- How many characters come before. -/
  index : Nat := 0
  line : Nat := 0
  column : Nat := 0
  deriving Inhabited

namespace Cursor

/-- The character at the cursor. -/
def head? (c : Cursor) : Option Char := c.rest.head?

/-- Whether a character is at the cursor. -/
def isAt (c : Cursor) (char : Char) : Bool := c.head? == some char

/-- Whether the line or the text ends at the cursor. -/
def atLineEnd (c : Cursor) : Bool := c.head?.all isBreak

/-- Moves over characters of the same line. -/
def skip (c : Cursor) (count : Nat) : Cursor :=
  { c with rest := c.rest.drop count, index := c.index + count, column := c.column + count }

/-- Takes the characters of the same line that belong to a class. -/
def takeWhile (c : Cursor) (p : Char → Bool) : List Char × Cursor :=
  let taken := c.rest.takeWhile fun char => !isBreak char && p char
  (taken, c.skip taken.length)

/-- Moves over the characters of the same line that belong to a class. -/
def skipWhile (c : Cursor) (p : Char → Bool) : Cursor := (c.takeWhile p).2

/-- Takes a line break, as it is read. -/
def takeBreak? (c : Cursor) : Option (Char × Cursor) :=
  match c.rest with
  | '\r' :: '\n' :: rest => some ('\n', { rest, index := c.index + 2, line := c.line + 1 })
  | char :: rest =>
    if isBreak char then
      let shown := if char = '\u2028' || char = '\u2029' then char else '\n'
      some (shown, { rest, index := c.index + 1, line := c.line + 1 })
    else none
  | [] => none

/-- Moves over a line break, if there is one. -/
def skipBreak (c : Cursor) : Cursor :=
  match c.takeBreak? with
  | some (_, c) => c
  | none => c

/-- Whether a line that begins with a word of three equal marks is at the cursor. -/
def isAtMarker (c : Cursor) (mark : Char) : Bool :=
  c.column = 0 && c.rest.take 3 = [mark, mark, mark] && endsWord (c.rest.drop 3)

/-- Whether a document begins or ends at the cursor. -/
def atDocumentMarker (c : Cursor) : Bool := c.isAtMarker '-' || c.isAtMarker '.'

end Cursor

end MachineProvider.Yaml
