import MachineProvider.Text.Digit

/-!
# Socket addresses

An internet address and a port, as it is written: `127.0.0.1:80` or `[::1]:80`. The groups of a long
address may be left out once, where they are zero, and its last two groups may be written as a short
address. A reader takes a value from the front of a text and says what is left.
-/

namespace MachineProvider

/-- An internet address. -/
inductive IpAddress where
  | v4 (octets : List Nat)
  | v6 (groups : List Nat) (scope : Nat)
  deriving DecidableEq, Repr, Inhabited

/-- An internet address and a port. -/
structure SocketAddress where
  address : IpAddress
  port : Nat
  deriving DecidableEq, Repr, Inhabited

namespace SocketAddress

/-- A number that is smaller than a bound. -/
def numberBelow? (base bound : Nat) (chars : List Char) : Option (Nat × List Char) :=
  (Text.takeNumber? base chars).filter (·.1 < bound)

/-- A given character. -/
def mark? (mark : Char) : List Char → Option (List Char)
  | c :: rest => if c = mark then some rest else none
  | [] => none

/-- A number up to 255 of at most three digits and without leading zeros. -/
def octet? (chars : List Char) : Option (Nat × List Char) := do
  let (n, rest) ← numberBelow? 10 256 chars
  let length := chars.length - rest.length
  if 3 < length || (1 < length && chars.head? = some '0') then none else some (n, rest)

/-- So many further octets, each after a dot. -/
def furtherOctets? : Nat → List Char → Option (List Nat × List Char)
  | 0, chars => some ([], chars)
  | count + 1, chars => do
    let (n, rest) ← mark? '.' chars >>= octet?
    let (ns, rest) ← furtherOctets? count rest
    return (n :: ns, rest)

/-- The four octets of a short address. -/
def octets? (chars : List Char) : Option (List Nat × List Char) := do
  let (n, rest) ← octet? chars
  let (ns, rest) ← furtherOctets? 3 rest
  return (n :: ns, rest)

/-- A group of at most four hexadecimal digits. -/
def group? (chars : List Char) : Option (Nat × List Char) :=
  (Text.takeNumber? 16 chars).filter fun (_, rest) => chars.length - rest.length ≤ 4

/-- The groups that two pairs of octets stand for. -/
def pairs : List Nat → List Nat
  | a :: b :: rest => (a * 256 + b) :: pairs rest
  | _ => []

/-- Groups of a long address that were read. -/
structure Groups where
  values : List Nat
  /-- Whether the last two of them were written as a short address. -/
  endsShort : Bool := false
  rest : List Char

/-- At most so many groups, with colons between them. -/
def groups : Nat → Bool → List Char → Groups
  | 0, _, chars => { values := [], rest := chars }
  | room + 1, isFirst, chars =>
    let begun := if isFirst then some chars else mark? ':' chars
    match (if 0 < room then begun >>= octets? else none) with
    | some (octets, rest) => { values := pairs octets, endsShort := true, rest }
    | none =>
      match begun >>= group? with
      | some (n, rest) =>
        let further := groups room false rest
        { further with values := n :: further.values }
      | none => { values := [], rest := chars }

/-- How many groups a long address has. -/
def groupCount : Nat := 8

/-- The groups of a long address. Two colons stand for the groups that are left out, of which there
is at least one. -/
def address? (chars : List Char) : Option (List Nat × List Char) :=
  let front := groups groupCount true chars
  if front.values.length = groupCount then some (front.values, front.rest)
  else if front.endsShort then none
  else do
    let rest ← mark? ':' front.rest >>= mark? ':'
    let back := groups (groupCount - (front.values.length + 1)) true rest
    let missing := groupCount - front.values.length - back.values.length
    return (front.values ++ List.replicate missing 0 ++ back.values, back.rest)

/-- The scope of a long address, zero when none is written. -/
def scope? (chars : List Char) : Option (Nat × List Char) :=
  match chars with
  | '%' :: rest => numberBelow? 10 UInt32.size rest
  | _ => some (0, chars)

/-- A colon and a port up to the end of the text. -/
def port? (chars : List Char) : Option Nat := do
  let (port, rest) ← mark? ':' chars >>= numberBelow? 10 UInt16.size
  if rest.isEmpty then some port else none

/-- A short address and a port. -/
def parseShort? (chars : List Char) : Option SocketAddress := do
  let (octets, rest) ← octets? chars
  return { address := .v4 octets, port := ← port? rest }

/-- A long address in brackets and a port. -/
def parseLong? (chars : List Char) : Option SocketAddress := do
  let (groups, rest) ← mark? '[' chars >>= address?
  let (scope, rest) ← scope? rest
  let rest ← mark? ']' rest
  return { address := .v6 groups scope, port := ← port? rest }

/-- Reads a socket address. -/
def parse? (text : String) : Option SocketAddress :=
  parseShort? text.toList <|> parseLong? text.toList

end SocketAddress

end MachineProvider
