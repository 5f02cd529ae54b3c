import MachineProvider.Json.Value

/-!
# Writing JSON text

The compact form of a value: no space between tokens, members in their order, and in strings only
the quote, the backslash and the control characters below the space escaped.
-/

namespace MachineProvider.Json

/-- A code point below 256 as an escape of four hexadecimal digits. -/
def unitEscape (c : Char) : String :=
  let digits := Nat.toDigits 16 c.toNat
  "\\u" ++ String.ofList (List.replicate (4 - digits.length) '0' ++ digits)

/-- One character inside a string. -/
def writtenChar (c : Char) : String :=
  match c with
  | '"' => "\\\""
  | '\\' => "\\\\"
  | '\x08' => "\\b"
  | '\x0C' => "\\f"
  | '\n' => "\\n"
  | '\r' => "\\r"
  | '\t' => "\\t"
  | c => if c.toNat < 0x20 then unitEscape c else c.toString

/-- A string with its quotes. -/
def writeString (value : String) : String :=
  "\"" ++ String.join (value.toList.map writtenChar) ++ "\""

mutual
/-- The text of a value. -/
def write : Json → String
  | null => "null"
  | bool true => "true"
  | bool false => "false"
  | int value => toString value
  | decimal text => text
  | str value => writeString value
  | arr items => "[" ++ writeItems items ++ "]"
  | obj members => "\x7b" ++ writeMembers members ++ "\x7d"

/-- The items of an array, with commas between them. -/
def writeItems : List Json → String
  | [] => ""
  | [item] => write item
  | item :: rest => write item ++ "," ++ writeItems rest

/-- The members of an object, with commas between them. -/
def writeMembers : List (String × Json) → String
  | [] => ""
  | [(name, value)] => writeString name ++ ":" ++ write value
  | (name, value) :: rest => writeString name ++ ":" ++ write value ++ "," ++ writeMembers rest
end

end MachineProvider.Json
