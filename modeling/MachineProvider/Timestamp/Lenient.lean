import MachineProvider.Text.Blank
import MachineProvider.Text.Digit
import MachineProvider.Timestamp

/-!
# Reading points in time leniently

The times in the metadata of objects and in leases are read more freely than RFC 3339 allows: the
parts of a date and of a time of day may have fewer digits and blanks around them, the year may have
a sign, the offset may be written as `UTC` and its colon as blanks, and blanks may follow.
-/

namespace MachineProvider.Timestamp

/-- The characters after leading blanks. -/
def skipBlanks (chars : List Char) : List Char :=
  chars.dropWhile Text.isBlank

/-- A number with at least one and at most so many digits, with no bound when none is given. -/
def digits? (most : Option Nat) (chars : List Char) : Option (Nat × List Char) :=
  let run := chars.takeWhile Char.isDigit
  let digits := match most with
    | some n => run.take n
    | none => run
  if digits.isEmpty then none
  else
    some (Text.decimal digits, chars.drop digits.length)

/-- A number of one or two digits after blanks. -/
def part? (chars : List Char) : Option (Nat × List Char) :=
  digits? (some 2) (skipBlanks chars)

/-- A year after blanks: with a sign any number of digits, without one at most four. -/
def year? (chars : List Char) : Option (Int × List Char) :=
  match skipBlanks chars with
  | '-' :: rest => (digits? none rest).map fun (n, rest) => (-(n : Int), rest)
  | '+' :: rest => (digits? none rest).map fun (n, rest) => ((n : Int), rest)
  | rest => (digits? (some 4) rest).map fun (n, rest) => ((n : Int), rest)

/-- One given character after blanks. -/
def separator? (c : Char) (chars : List Char) : Option (List Char) :=
  expect? c (skipBlanks chars)

/-- The offset from UTC in seconds. It is less than a day. -/
def lenientOffset? (chars : List Char) : Option (Int × List Char) :=
  if (chars.take 3).map Char.toUpper = ['U', 'T', 'C'] then some (0, chars.drop 3)
  else
    match chars with
    | [] => none
    | sign :: rest =>
      if sign = 'Z' || sign = 'z' then some (0, rest)
      else if sign = '+' || sign = '-' || sign = '\u2212' then do
        let (hours, rest) ← fixedDigits? 2 rest
        let (minutes, rest) ← fixedDigits? 2 (rest.dropWhile fun c => c = ':' || Text.isBlank c)
        if hours ≤ 23 && minutes ≤ 59 then
          let span : Int := hours * 3600 + minutes * 60
          return (if sign = '+' then span else -span, rest)
        else none
      else none

/-- Whether the second of a point in time can be represented. -/
def isRepresentable (seconds : Int) : Bool :=
  firstSecond ≤ seconds && seconds ≤ lastSecond

/-- The point in time that a text denotes when it is read leniently. -/
def parseLenient? (text : String) : Option Timestamp := do
  let (year, rest) ← year? text.toList
  let rest ← separator? '-' rest
  let (month, rest) ← part? rest
  let rest ← separator? '-' rest
  let (day, rest) ← part? rest
  let rest ← match rest with
    | c :: rest => if c = 'T' || c = 't' || c = ' ' then some rest else none
    | [] => none
  let (hour, rest) ← part? rest
  let rest ← separator? ':' rest
  let (minute, rest) ← part? rest
  let rest ← separator? ':' rest
  let (second, rest) ← part? rest
  let (nanos, rest) ← match rest with
    | '.' :: rest => fraction? rest
    | rest => some (0, rest)
  let (offset, rest) ← lenientOffset? (skipBlanks rest)
  let valid := (skipBlanks rest).isEmpty && 1 ≤ month && month ≤ 12 && 1 ≤ day &&
    (day : Int) ≤ daysInMonth year month && hour ≤ 23 && minute ≤ 59 && second ≤ 60
  let there := daysOfDate year month day * secondsPerDay +
    (hour * 3600 + minute * 60 + min second 59 : Nat)
  if valid && isRepresentable there && isRepresentable (there - offset) then
    some
      { seconds := there - offset
        nanos := if second = 60 then nanos + nanosPerSecond else nanos }
  else none

end MachineProvider.Timestamp
