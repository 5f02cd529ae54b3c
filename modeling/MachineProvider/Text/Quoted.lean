import MachineProvider.Text.Hidden

/-!
# Quoted text

Messages show a string between double quotes so that its ends and its invisible characters can be
seen. The quote and the backslash are escaped, the common control characters have their short
escapes, and every other hidden character is shown by its code point in hexadecimal.
-/

namespace MachineProvider.Text

/-- The code point of a character as it is shown inside quoted text. -/
def codePoint (c : Char) : String :=
  "\\u\x7b" ++ String.ofList (Nat.toDigits 16 c.toNat) ++ "\x7d"

/-- One character as it is shown inside quoted text. -/
def quotedChar (c : Char) : String :=
  match c with
  | '\x00' => "\\0"
  | '\t' => "\\t"
  | '\n' => "\\n"
  | '\r' => "\\r"
  | '"' => "\\\""
  | '\\' => "\\\\"
  | c => if isHidden c then codePoint c else c.toString

/-- A string between double quotes, each of its characters shown by `quotedChar`. -/
def quoted (s : String) : String :=
  "\"" ++ String.join (s.toList.map quotedChar) ++ "\""

end MachineProvider.Text
