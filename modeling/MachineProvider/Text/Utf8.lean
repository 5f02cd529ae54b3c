/-!
# Reading bytes as UTF-8

Secrets and files must be UTF-8 as a whole, which `ofBytes?` checks. A response body is read
leniently by `ofBytesLossy`: a byte order mark in front is dropped, and each maximal run of bytes
that starts a character without completing it becomes one replacement character.
-/

namespace MachineProvider.Text

/-- The string whose UTF-8 form the bytes are, or nothing when they are not UTF-8. -/
def ofBytes? (bytes : ByteArray) : Option String :=
  String.fromUTF8? bytes

/-- The character that stands for bytes which are not UTF-8. -/
def replacement : Char := '\uFFFD'

/-- For a leading byte: how many bytes follow, the bounds of the first of these, and the bits it
carries itself. -/
def leadingByte (b : Nat) : Option (Nat × Nat × Nat × Nat) :=
  if 0xC2 ≤ b && b ≤ 0xDF then some (1, 0x80, 0xBF, b - 0xC0)
  else if b = 0xE0 then some (2, 0xA0, 0xBF, 0)
  else if b = 0xED then some (2, 0x80, 0x9F, 0xD)
  else if 0xE1 ≤ b && b ≤ 0xEF then some (2, 0x80, 0xBF, b - 0xE0)
  else if b = 0xF0 then some (3, 0x90, 0xBF, 0)
  else if 0xF1 ≤ b && b ≤ 0xF3 then some (3, 0x80, 0xBF, b - 0xF0)
  else if b = 0xF4 then some (3, 0x80, 0x8F, 4)
  else none

/-- What is pending inside a character: the bytes still missing, the bounds of the next one and
the bits read so far. -/
structure Pending where
  missing : Nat
  low : Nat
  high : Nat
  bits : Nat

/-- Starts a character with the given byte. -/
def startChar (b : Nat) : List Char × Option Pending :=
  if b < 0x80 then ([Char.ofNat b], none)
  else match leadingByte b with
    | some (missing, low, high, bits) => ([], some ⟨missing, low, high, bits⟩)
    | none => ([replacement], none)

/-- Reads one byte: the characters that are now known, and what is pending after it. -/
def stepByte (pending : Option Pending) (b : Nat) : List Char × Option Pending :=
  match pending with
  | none => startChar b
  | some p =>
    if p.low ≤ b && b ≤ p.high then
      let bits := p.bits * 64 + (b - 0x80)
      if p.missing ≤ 1 then ([Char.ofNat bits], none)
      else ([], some ⟨p.missing - 1, 0x80, 0xBF, bits⟩)
    else
      let (known, next) := startChar b
      (replacement :: known, next)

/-- Reads all bytes, starting with what is pending. -/
def lossyChars : Option Pending → List UInt8 → List Char
  | none, [] => []
  | some _, [] => [replacement]
  | pending, b :: rest =>
    let (known, next) := stepByte pending b.toNat
    known ++ lossyChars next rest

/-- The bytes as text, with a replacement character wherever they are not UTF-8. -/
def ofBytesLossy (bytes : ByteArray) : String :=
  match bytes.toList with
  | 0xEF :: 0xBB :: 0xBF :: rest => String.ofList (lossyChars none rest)
  | all => String.ofList (lossyChars none all)

end MachineProvider.Text
