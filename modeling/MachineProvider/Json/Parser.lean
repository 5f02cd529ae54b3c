import MachineProvider.Json.Value
import MachineProvider.Text.Digit

/-!
# Reading JSON text

A reader for one JSON value (RFC 8259) that fills a whole text. Each reading step takes the
characters that are left and returns the ones after what it read. Values may be nested to a depth
of 127. An object with a repeated name is kept as it is written; whether a repetition is an error
is for the reader of the object to say.
-/

namespace MachineProvider.Json

/-- The characters between tokens. -/
def isSpace (c : Char) : Bool :=
  c = ' ' || c = '\t' || c = '\n' || c = '\r'

/-- The text without the space in front. -/
def skipSpace (chars : List Char) : List Char :=
  chars.dropWhile isSpace

/-- Four hexadecimal digits as one number. -/
def hexUnit? : List Char → Option (Nat × List Char)
  | a :: b :: c :: d :: rest => do
    let a ← Text.hexDigit? a
    let b ← Text.hexDigit? b
    let c ← Text.hexDigit? c
    let d ← Text.hexDigit? d
    return (((a * 16 + b) * 16 + c) * 16 + d, rest)
  | _ => none

/-- The character of an escape with hexadecimal digits. Units of a surrogate pair come together,
and a unit of a pair without its partner is an error. -/
def escapedUnit? (chars : List Char) : Option (Char × List Char) :=
  match hexUnit? chars with
  | none => none
  | some (unit, rest) =>
    if 0xDC00 ≤ unit && unit ≤ 0xDFFF then none
    else if 0xD800 ≤ unit && unit ≤ 0xDBFF then
      match rest with
      | '\\' :: 'u' :: more =>
        match hexUnit? more with
        | some (low, rest) =>
          if 0xDC00 ≤ low && low ≤ 0xDFFF then
            some (Char.ofNat (0x10000 + (unit - 0xD800) * 0x400 + (low - 0xDC00)), rest)
          else none
        | none => none
      | _ => none
    else some (Char.ofNat unit, rest)

/-- The character that a short escape stands for. -/
def shortEscape? : Char → Option Char
  | '"' => some '"'
  | '\\' => some '\\'
  | '/' => some '/'
  | 'b' => some '\x08'
  | 'f' => some '\x0C'
  | 'n' => some '\n'
  | 'r' => some '\r'
  | 't' => some '\t'
  | _ => none

/-- The rest of a string after its opening quote, read with a bound on the number of steps. -/
def readString : Nat → List Char → Option (List Char × List Char)
  | 0, _ => none
  | _ + 1, [] => none
  | _ + 1, '"' :: rest => some ([], rest)
  | fuel + 1, '\\' :: 'u' :: rest => do
    let (c, rest) ← escapedUnit? rest
    let (chars, rest) ← readString fuel rest
    return (c :: chars, rest)
  | fuel + 1, '\\' :: c :: rest => do
    let c ← shortEscape? c
    let (chars, rest) ← readString fuel rest
    return (c :: chars, rest)
  | fuel + 1, c :: rest =>
    if c.toNat < 0x20 || c = '\\' then none
    else do
      let (chars, rest) ← readString fuel rest
      return (c :: chars, rest)

/-- Whether an integer has a representation of 64 bits, signed or unsigned. -/
def fitsWord (value : Int) : Bool :=
  Int64.minValue.toInt ≤ value && value < UInt64.size

/-- One or more digits. -/
def readDigits (chars : List Char) : Option (List Char × List Char) :=
  match chars.takeWhile Char.isDigit, chars.dropWhile Char.isDigit with
  | [], _ => none
  | digits, rest => some (digits, rest)

/-- The part of a number after the point, with the point. -/
def readFraction : List Char → Option (List Char × List Char)
  | '.' :: rest => (readDigits rest).map fun (digits, rest) => ('.' :: digits, rest)
  | chars => some ([], chars)

/-- The exponent of a number, with its letter. -/
def readExponent : List Char → Option (List Char × List Char)
  | e :: rest =>
    if e = 'e' || e = 'E' then
      match rest with
      | '+' :: rest => (readDigits rest).map fun (digits, rest) => (e :: '+' :: digits, rest)
      | '-' :: rest => (readDigits rest).map fun (digits, rest) => (e :: '-' :: digits, rest)
      | rest => (readDigits rest).map fun (digits, rest) => (e :: digits, rest)
    else some ([], e :: rest)
  | [] => some ([], [])

/-- A number whose sign has been read. -/
def readUnsigned (negative : Bool) (chars : List Char) : Option (Json × List Char) := do
  let (digits, rest) ← readDigits chars
  if digits.length > 1 && digits.head? == some '0' then none
  else do
    let (fraction, rest) ← readFraction rest
    let (exponent, rest) ← readExponent rest
    let magnitude : Int := Text.decimal digits
    let value := if negative then -magnitude else magnitude
    if fraction.isEmpty && exponent.isEmpty && fitsWord value && !(negative && value == 0) then
      return (int value, rest)
    else
      let sign := if negative then ['-'] else []
      return (decimal (String.ofList (sign ++ digits ++ fraction ++ exponent)), rest)

/-- The rest of an array after a value or its opening bracket. -/
def readItems (readItem : List Char → Option (Json × List Char)) :
    Nat → List Char → Option (List Json × List Char)
  | 0, _ => none
  | fuel + 1, chars => do
    let (item, rest) ← readItem chars
    match skipSpace rest with
    | ',' :: rest =>
      let (items, rest) ← readItems readItem fuel rest
      return (item :: items, rest)
    | ']' :: rest => return ([item], rest)
    | _ => none

/-- A name and a colon. -/
def readName (chars : List Char) : Option (String × List Char) :=
  match skipSpace chars with
  | '"' :: rest => do
    let (name, rest) ← readString (rest.length + 1) rest
    match skipSpace rest with
    | ':' :: rest => return (String.ofList name, rest)
    | _ => none
  | _ => none

/-- The rest of an object after a member or its opening brace. -/
def readMembers (readItem : List Char → Option (Json × List Char)) :
    Nat → List Char → Option (List (String × Json) × List Char)
  | 0, _ => none
  | fuel + 1, chars => do
    let (name, rest) ← readName chars
    let (item, rest) ← readItem rest
    match skipSpace rest with
    | ',' :: rest =>
      let (members, rest) ← readMembers readItem fuel rest
      return ((name, item) :: members, rest)
    | '\x7d' :: rest => return ([(name, item)], rest)
    | _ => none

/-- A value nested at most as deep as the first argument allows. -/
def readValue : Nat → List Char → Option (Json × List Char)
  | 0, _ => none
  | depth + 1, chars =>
    match skipSpace chars with
    | 'n' :: 'u' :: 'l' :: 'l' :: rest => some (null, rest)
    | 't' :: 'r' :: 'u' :: 'e' :: rest => some (bool true, rest)
    | 'f' :: 'a' :: 'l' :: 's' :: 'e' :: rest => some (bool false, rest)
    | '"' :: rest =>
      (readString (rest.length + 1) rest).map fun (chars, rest) => (str (String.ofList chars), rest)
    | '[' :: rest =>
      if depth = 0 then none
      else match skipSpace rest with
      | ']' :: rest => some (arr [], rest)
      | rest => (readItems (readValue depth) (rest.length + 1) rest).map fun (xs, r) => (arr xs, r)
    | '\x7b' :: rest =>
      if depth = 0 then none
      else match skipSpace rest with
      | '\x7d' :: rest => some (obj [], rest)
      | rest =>
        (readMembers (readValue depth) (rest.length + 1) rest).map fun (xs, r) => (obj xs, r)
    | '-' :: rest => readUnsigned true rest
    | rest => readUnsigned false rest

/-- How deep values may be nested. -/
def maxDepth : Nat := 128

/-- The JSON value that a text consists of. -/
def parse? (text : String) : Option Json :=
  match readValue maxDepth text.toList with
  | some (value, rest) => if (skipSpace rest).isEmpty then some value else none
  | none => none

end MachineProvider.Json
