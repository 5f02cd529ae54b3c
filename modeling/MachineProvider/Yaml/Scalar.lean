import MachineProvider.Text.Digit
import MachineProvider.Yaml.Cursor

/-!
# Scalars of YAML

Plain and quoted scalars are runs of characters with gaps between them. A gap within a line is kept;
a gap over line breaks is folded: one break is a space, and of several breaks the first is left out.
Block scalars are lines of the same indentation, which are kept or folded.
-/

namespace MachineProvider.Yaml

/-- What is between two runs of characters. -/
inductive Gap where
  /-- Blanks of one line. -/
  | spaces (blanks : List Char)
  /-- Line breaks. The first is missing when it was escaped. -/
  | breaks (first : Option Char) (further : List Char)
  deriving Inhabited

namespace Gap

/-- What a gap is folded to. -/
def folded : Gap → List Char
  | spaces blanks => blanks
  | breaks (some '\n') [] => [' ']
  | breaks (some '\n') further => further
  | breaks (some c) further => c :: further
  | breaks none further => further

/-- Whether a gap goes over a line break. -/
def isBroken : Gap → Bool
  | spaces _ => false
  | breaks .. => true

end Gap

namespace Cursor

/-- Moves over blanks and breaks after a first break and collects the breaks. Left of a column there
must be no tab. -/
def furtherBreaks? (tabsFrom : Nat) : Nat → Cursor → List Char → Option (List Char × Cursor)
  | 0, c, breaks => some (breaks, c)
  | fuel + 1, c, breaks =>
    if c.isAt '\t' && c.column < tabsFrom then none
    else if c.head?.any isSpace then furtherBreaks? tabsFrom fuel (c.skip 1) breaks
    else
      match c.takeBreak? with
      | some (b, c) => furtherBreaks? tabsFrom fuel c (breaks ++ [b])
      | none => some (breaks, c)

/-- Moves over a gap. Left of a column there must be no tab after a break. -/
def gap? (c : Cursor) (tabsFrom : Nat) : Option (Gap × Cursor) :=
  let (blanks, c) := c.takeWhile isSpace
  match c.takeBreak? with
  | none => some (.spaces blanks, c)
  | some (first, c) => do
    let (further, c) ← c.furtherBreaks? tabsFrom (c.rest.length + 1) []
    return (.breaks (some first) further, c)

end Cursor

/-! ## Plain scalars -/

/-- Whether a character structures a flow collection. -/
def isFlowIndicator (c : Char) : Bool :=
  c = ',' || c = '[' || c = ']' || c = '\x7b' || c = '\x7d'

/-- The characters of a plain scalar up to a blank or a mark that ends it. In a flow collection a
colon before a mark is a fault. -/
def plainRun? (inFlow : Bool) : List Char → Option (List Char)
  | [] => some []
  | c :: rest =>
    if isSpace c || isBreak c then some []
    else if inFlow && c = ':' && rest.head?.any (fun d => isFlowIndicator d || d = '?') then none
    else if c = ':' && endsWord rest then some []
    else if inFlow && isFlowIndicator c then some []
    else (plainRun? inFlow rest).map (c :: ·)

/-- A scalar that was read: its text, where it ends, and whether a line ended after it. -/
structure Scanned where
  text : List Char
  cursor : Cursor
  broken : Bool := false
  deriving Inhabited

/-- The rest of a plain scalar after some text and a gap. The lines of a scalar in a block
collection are indented to a column at least. -/
def plainRest? (inFlow : Bool) (least : Nat) : Nat → Cursor → List Char → Gap → Option Scanned
  | 0, _, _, _ => none
  | fuel + 1, c, text, gap =>
    if c.atDocumentMarker || c.isAt '#' then some ⟨text, c, gap.isBroken⟩
    else do
      let run ← plainRun? inFlow c.rest
      let ending := c.skip run.length
      let (text, broken) :=
        if run.isEmpty then (text, gap.isBroken) else (text ++ gap.folded ++ run, false)
      if !ending.head?.any (fun d => isSpace d || isBreak d) then return ⟨text, ending, broken⟩
      else
        let (gap, after) ← ending.gap? least
        if !inFlow && after.column < least then return ⟨text, after, gap.isBroken⟩
        else plainRest? inFlow least fuel after text gap

/-- A plain scalar at a cursor. -/
def plain? (inFlow : Bool) (least : Nat) (c : Cursor) : Option Scanned :=
  plainRest? inFlow least (c.rest.length + 2) c [] (.spaces [])

/-! ## Quoted scalars -/

/-- The character that a letter after a backslash stands for. -/
def escaped? : Char → Option Char
  | '0' => some '\x00'
  | 'a' => some '\x07'
  | 'b' => some '\x08'
  | 't' => some '\t'
  | '\t' => some '\t'
  | 'n' => some '\n'
  | 'v' => some '\x0B'
  | 'f' => some '\x0C'
  | 'r' => some '\r'
  | 'e' => some '\x1B'
  | ' ' => some ' '
  | '"' => some '"'
  | '/' => some '/'
  | '\\' => some '\\'
  | 'N' => some '\u0085'
  | '_' => some '\u00A0'
  | 'L' => some '\u2028'
  | 'P' => some '\u2029'
  | _ => none

/-- How many hexadecimal digits follow a letter after a backslash. -/
def escapeDigits? : Char → Option Nat
  | 'x' => some 2
  | 'u' => some 4
  | 'U' => some 8
  | _ => none

/-- The character with a code of so many hexadecimal digits at the beginning of a text. -/
def hexChar? (count : Nat) (chars : List Char) : Option Char := do
  let digits ← (chars.take count).mapM Text.hexDigit?
  let code := Text.ofDigits 16 digits
  if digits.length = count && code.isValidChar then some (Char.ofNat code) else none

/-- What one step in a quoted scalar finds. -/
inductive QuotedStep where
  /-- A character of the text and how long it is written. -/
  | char (value : Char) (length : Nat)
  /-- A line break after a backslash. -/
  | escapedBreak
  /-- The closing quote. -/
  | close
  /-- A blank or a break. -/
  | gap

/-- One step in a scalar in single quotes, where a quote is written twice. -/
def singleStep? : List Char → Option QuotedStep
  | '\'' :: '\'' :: _ => some (.char '\'' 2)
  | '\'' :: _ => some .close
  | c :: _ => some (if isSpace c || isBreak c then .gap else .char c 1)
  | [] => none

/-- One step in a scalar in double quotes. -/
def doubleStep? : List Char → Option QuotedStep
  | '"' :: _ => some .close
  | '\\' :: c :: rest =>
    if isBreak c then some .escapedBreak
    else
      match escapeDigits? c with
      | some count => (hexChar? count rest).map (.char · (count + 2))
      | none => (escaped? c).map (.char · 2)
  | ['\\'] => none
  | c :: _ => some (if isSpace c || isBreak c then .gap else .char c 1)
  | [] => none

/-- The rest of a quoted scalar up to its closing quote, after some text, which is kept from its end
to its beginning. -/
def quotedRest? (step? : List Char → Option QuotedStep) : Nat → Cursor → List Char → Option Scanned
  | 0, _, _ => none
  | fuel + 1, c, text =>
    if c.atDocumentMarker then none
    else do
      match ← step? c.rest with
      | .char value length => quotedRest? step? fuel (c.skip length) (value :: text)
      | .close => return ⟨text.reverse, c.skip 1, false⟩
      | .gap =>
        let (gap, after) ← c.gap? 0
        quotedRest? step? fuel after (gap.folded.reverse ++ text)
      | .escapedBreak =>
        let after := (c.skip 1).skipBreak
        let (further, after) ← after.furtherBreaks? 0 (after.rest.length + 1) []
        quotedRest? step? fuel after ((Gap.breaks none further).folded.reverse ++ text)

/-- A scalar in single quotes at a cursor. -/
def singleQuoted? (c : Cursor) : Option Scanned :=
  quotedRest? singleStep? (c.rest.length + 1) (c.skip 1) []

/-- A scalar in double quotes at a cursor. -/
def doubleQuoted? (c : Cursor) : Option Scanned :=
  quotedRest? doubleStep? (c.rest.length + 1) (c.skip 1) []

/-! ## Block scalars -/

/-- What becomes of the line breaks at the end of a block scalar. -/
inductive Chomping where
  /-- None is kept. -/
  | strip
  /-- One is kept. -/
  | clip
  /-- All are kept. -/
  | keep
  deriving DecidableEq, Repr, Inhabited

/-- The chomping that a character asks for. -/
def chomping? : Char → Option Chomping
  | '+' => some .keep
  | '-' => some .strip
  | _ => none

/-- The indentation that a character asks for; zero is a fault. -/
def indentation? (c : Cursor) : Option (Nat × Cursor) :=
  match c.head? with
  | some d =>
    if d = '0' then none
    else if d.isDigit then some (Text.decimal [d], c.skip 1)
    else some (0, c)
  | none => some (0, c)

/-- The header of a block scalar: its chomping and its indentation, zero when it does not say. -/
def blockHeader? (c : Cursor) : Option (Chomping × Nat × Cursor) :=
  match c.head?.bind chomping? with
  | some chomping => do
    let (indentation, c) ← indentation? (c.skip 1)
    return (chomping, indentation, c)
  | none => do
    let (indentation, c) ← indentation? c
    match c.head?.bind chomping? with
    | some chomping => return (chomping, indentation, c.skip 1)
    | none => return (.clip, indentation, c)

/-- Moves to the next line over blanks and a comment. -/
def lineEnd? (c : Cursor) : Option Cursor :=
  let c := c.skipWhile isSpace
  let c := if c.isAt '#' then c.skipWhile fun _ => true else c
  if c.atLineEnd then some c.skipBreak else none

/-- Moves over the indentation of a line and over empty lines. With an unknown indentation (zero)
all spaces belong to it. The result is the largest column that was reached, and the breaks. -/
def blockBreaks? (indent : Nat) : Nat → Cursor → Nat → List Char → Option (Nat × List Char × Cursor)
  | 0, c, most, breaks => some (most, breaks, c)
  | fuel + 1, c, most, breaks =>
    let spaces := c.rest.takeWhile (· = ' ')
    let count := if indent = 0 then spaces.length else min spaces.length (indent - c.column)
    let c := c.skip count
    let most := max most c.column
    if (indent = 0 || c.column < indent) && c.isAt '\t' then none
    else
      match c.takeBreak? with
      | some (b, c) => blockBreaks? indent fuel c most (breaks ++ [b])
      | none => some (most, breaks, c)

/-- The lines of a block scalar after some text. `broken` is the break of the line before, `breaks`
are those after it, and `blank` says whether the line before began with a blank. -/
def blockLines? (isLiteral : Bool) (indent : Nat) :
    Nat → Cursor → (text broken breaks : List Char) → (blank : Bool) →
      Option (List Char × List Char × List Char × Cursor)
  | 0, c, text, broken, breaks, _ => some (text, broken, breaks, c)
  | fuel + 1, c, text, broken, breaks, blank =>
    if c.column = indent && !c.rest.isEmpty then do
      let blankNow := c.head?.any isSpace
      let joint :=
        if !isLiteral && broken = ['\n'] && !blank && !blankNow then
          if breaks.isEmpty then [' '] else []
        else broken
      let (content, c) := c.takeWhile fun _ => true
      let text := text ++ joint ++ breaks ++ content
      let (broken, c) := match c.takeBreak? with
        | some (b, c) => ([b], c)
        | none => ([], c)
      let (_, breaks, c) ← blockBreaks? indent (c.rest.length + 1) c 0 []
      blockLines? isLiteral indent fuel c text broken breaks blankNow
    else some (text, broken, breaks, c)

/-- A block scalar at a cursor, in a collection of the given indentation. -/
def block? (isLiteral : Bool) (outer : Int) (c : Cursor) : Option Scanned := do
  let (chomping, asked, c) ← blockHeader? (c.skip 1)
  let c ← lineEnd? c
  let known := if asked = 0 then 0 else (max outer 0).toNat + asked
  let (most, breaks, c) ← blockBreaks? known (c.rest.length + 1) c 0 []
  let indent := if known = 0 then max most (max (outer + 1).toNat 1) else known
  let (text, broken, breaks, c) ←
    blockLines? isLiteral indent (c.rest.length + 1) c [] [] breaks false
  let text := match chomping with
    | .strip => text
    | .clip => text ++ broken
    | .keep => text ++ broken ++ breaks
  return ⟨text, c, false⟩

end MachineProvider.Yaml
