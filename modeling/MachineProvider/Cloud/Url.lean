/-!
# Addresses of resources

A text is read as an address by the rules of the URL standard for `http` and `https`: slashes and
backslashes separate the segments of the path, `.` and `..` are resolved, `?` starts the query and
`#` a part that is not sent. Characters that may not stand in a path or in a query are written as
the bytes of their UTF-8 form in hexadecimal. `Url.target` is what a request asks for.
-/

namespace MachineProvider

/-- The parts of an address that are used to send a request. -/
structure Url where
  isSecure : Bool
  /-- Host and port. -/
  authority : String
  /-- The segments of the path. -/
  path : List String
  query : Option String
  deriving DecidableEq, Repr, Inhabited

namespace Url

/-- One hexadecimal digit in upper case. -/
def hexDigit (n : Nat) : Char :=
  if n < 10 then Char.ofNat ('0'.toNat + n) else Char.ofNat ('A'.toNat + (n - 10))

/-- A byte with a percent sign in front. -/
def percentByte (b : UInt8) : List Char :=
  ['%', hexDigit (b.toNat / 16), hexDigit (b.toNat % 16)]

/-- A character as it is written where the given ASCII characters may not stand. Control characters
and characters outside ASCII may stand nowhere. -/
def percentEncode (escaped : List Char) (c : Char) : List Char :=
  if c.toNat < 0x20 || c.toNat ≥ 0x7F || escaped.contains c then
    (String.utf8EncodeChar c).flatMap percentByte
  else [c]

/-- The ASCII characters that may not stand in a query. -/
def escapedInQuery : List Char := [' ', '"', '#', '<', '>', '\'']

/-- The ASCII characters that may not stand in a path. -/
def escapedInPath : List Char := [' ', '"', '#', '<', '>', '?', '^', '\x60', '\x7b', '\x7d']

/-- Whether a character separates the segments of a path. -/
def isSlash (c : Char) : Bool :=
  c = '/' || c = '\\'

/-- Whether a character ends the path. -/
def endsPath (c : Char) : Bool :=
  c = '?' || c = '#'

/-- A segment in lower case with the escaped dots written out. -/
def plainDots : List Char → List Char
  | '%' :: '2' :: 'e' :: rest => '.' :: plainDots rest
  | '%' :: '2' :: 'E' :: rest => '.' :: plainDots rest
  | c :: rest => c :: plainDots rest
  | [] => []

/-- Appends a segment to a path. A dot stands for the path itself and two dots for the path without
its last segment; at the end of a path both leave an empty segment. -/
def appendSegment (path : List String) (segment : List Char) (isLast : Bool) : List String :=
  let dots := plainDots segment
  if dots = ['.', '.'] then if isLast then path.dropLast ++ [""] else path.dropLast
  else if dots = ['.'] then if isLast then path ++ [""] else path
  else path ++ [String.ofList (segment.flatMap (percentEncode escapedInPath))]

/-- Reads the segments of a path after its first slash. -/
def readPath (path : List String) (segment : List Char) : List Char → List String
  | [] => appendSegment path segment true
  | c :: rest =>
    if isSlash c then readPath (appendSegment path segment false) [] rest
    else readPath path (segment ++ [c]) rest

/-- Reads what follows host and port: the path and the query. -/
def readTarget (chars : List Char) : List String × Option String :=
  let path := chars.takeWhile (!endsPath ·)
  let segments := match path with
    | [] => [""]
    | _ :: rest => readPath [] [] rest
  match chars.dropWhile (!endsPath ·) with
  | '?' :: rest =>
    let query := rest.takeWhile (· ≠ '#')
    (segments, some (String.ofList (query.flatMap (percentEncode escapedInQuery))))
  | _ => (segments, none)

/-- Whether a character may not stand in the name of a host. -/
def isForbiddenInHost (c : Char) : Bool :=
  c.toNat ≤ 0x20 || c.toNat = 0x7F ||
    ['#', '%', '/', '<', '>', '?', '@', '\\', '^', '|'].contains c

/-- Host and port out of what stands in front of the path. -/
def authority? (chars : List Char) : Option String :=
  let host := (chars.reverse.takeWhile (· ≠ '@')).reverse
  let port := host.reverse.takeWhile (· ≠ ':')
  let hasPort := host.contains ':' && port.all Char.isDigit
  let name := if hasPort then host.take (host.length - port.length - 1) else host
  if name.isEmpty || host.any isForbiddenInHost then none else some (String.ofList host)

/-- The text after a scheme, with the scheme in lower case. -/
def afterScheme? (scheme : List Char) (chars : List Char) : Option (List Char) :=
  let front := chars.take (scheme.length + 1)
  if front.map Char.toLower = scheme ++ [':'] then some (chars.drop (scheme.length + 1)) else none

/-- The characters of a text that count: none of the spaces and control characters around it, and
no tab or line break within it. -/
def significant (text : String) : List Char :=
  let isEdge (c : Char) : Bool := c.toNat ≤ 0x20
  let inner := ((text.toList.dropWhile isEdge).reverse.dropWhile isEdge).reverse
  inner.filter fun c => !(c = '\t' || c = '\n' || c = '\r')

/-- Reads a text as an address. -/
def parse? (text : String) : Option Url := do
  let chars := significant text
  let (isSecure, rest) ← match afterScheme? "https".toList chars with
    | some rest => some (true, rest)
    | none => (afterScheme? "http".toList chars).map (false, ·)
  let rest := rest.dropWhile isSlash
  let ends (c : Char) : Bool := isSlash c || endsPath c
  let authority ← authority? (rest.takeWhile (!ends ·))
  let (path, query) := readTarget (rest.dropWhile (!ends ·))
  return { isSecure, authority, path, query }

/-- What a request to an address asks for. -/
def target (u : Url) : String :=
  let path := String.join (u.path.map ("/" ++ ·))
  match u.query with
  | some query => path ++ "?" ++ query
  | none => path

end Url

end MachineProvider
