import MachineProvider.Text.Digit

/-!
# Points in time

A `Timestamp` counts seconds from the beginning of 1970 in UTC, without leap seconds, and
nanoseconds within the second. During a leap second the count of seconds stands still and the
nanoseconds go on past 10^9. Timestamps are written and read in the form of RFC 3339. The dates
that can be represented run from the year -262143 to the year 262142; adding a span that leaves
this range has no result.
-/

namespace MachineProvider

/-- A point in time. -/
structure Timestamp where
  /-- Seconds since 1970-01-01T00:00:00Z. -/
  seconds : Int
  /-- Nanoseconds within the second; 10^9 or more during a leap second. -/
  nanos : Nat
  deriving DecidableEq, Repr, Inhabited

namespace Timestamp

/-- Nanoseconds in a second. -/
def nanosPerSecond : Nat := 1000000000

/-- Seconds in a day. -/
def secondsPerDay : Int := 86400

/-- Whether one point in time is before another. -/
def isBefore (a b : Timestamp) : Bool :=
  a.seconds < b.seconds || (a.seconds = b.seconds && a.nanos < b.nanos)

/-- The number of days from 1970-01-01 to a date of the Gregorian calendar. -/
def daysOfDate (year month day : Int) : Int :=
  let y := if month ≤ 2 then year - 1 else year
  let era := Int.fdiv y 400
  let yearOfEra := y - era * 400
  let monthFromMarch := if month > 2 then month - 3 else month + 9
  let dayOfYear := (153 * monthFromMarch + 2) / 5 + day - 1
  let dayOfEra := yearOfEra * 365 + yearOfEra / 4 - yearOfEra / 100 + dayOfYear
  era * 146097 + dayOfEra - 719468

/-- The year, month and day that a number of days from 1970-01-01 falls on. -/
def dateOfDays (days : Int) : Int × Int × Int :=
  let z := days + 719468
  let era := Int.fdiv z 146097
  let dayOfEra := z - era * 146097
  let yearOfEra :=
    (dayOfEra - dayOfEra / 1460 + dayOfEra / 36524 - dayOfEra / 146096) / 365
  let dayOfYear := dayOfEra - (365 * yearOfEra + yearOfEra / 4 - yearOfEra / 100)
  let monthFromMarch := (5 * dayOfYear + 2) / 153
  let day := dayOfYear - (153 * monthFromMarch + 2) / 5 + 1
  let month := if monthFromMarch < 10 then monthFromMarch + 3 else monthFromMarch - 9
  let year := yearOfEra + era * 400
  (if month ≤ 2 then year + 1 else year, month, day)

/-- Whether a year has a 29th of February. -/
def isLeapYear (year : Int) : Bool :=
  year % 4 = 0 && (year % 100 != 0 || year % 400 = 0)

/-- The number of days of a month. -/
def daysInMonth (year month : Int) : Int :=
  if month = 2 then if isLeapYear year then 29 else 28
  else if month = 4 || month = 6 || month = 9 || month = 11 then 30
  else 31

/-- The first second that can be represented. -/
def firstSecond : Int := daysOfDate (-262143) 1 1 * secondsPerDay

/-- The last second that can be represented. -/
def lastSecond : Int := (daysOfDate 262142 12 31 + 1) * secondsPerDay - 1

/-- Adds a number of seconds, or nothing when the result cannot be represented. A leap second is
left behind by a positive span as if it were the second before, and by a negative one as if it
were the second after. -/
def addSeconds? (t : Timestamp) (span : Int) : Option Timestamp :=
  let moved : Timestamp :=
    if t.nanos < nanosPerSecond || span = 0 then ⟨t.seconds + span, t.nanos⟩
    else if span > 0 then ⟨t.seconds + span, t.nanos - nanosPerSecond⟩
    else ⟨t.seconds + 1 + span, t.nanos - nanosPerSecond⟩
  if firstSecond ≤ moved.seconds && moved.seconds ≤ lastSecond then some moved else none

/-- Exactly so many decimal digits as a number. -/
def fixedDigits? : Nat → List Char → Option (Nat × List Char)
  | count, chars =>
    let digits := chars.take count
    if digits.length = count && digits.all Char.isDigit then
      some (Text.decimal digits, chars.drop count)
    else none

/-- One given character. -/
def expect? (c : Char) : List Char → Option (List Char)
  | head :: rest => if head = c then some rest else none
  | [] => none

/-- The fraction of a second after the point, in nanoseconds; further digits are cut off. -/
def fraction? (chars : List Char) : Option (Nat × List Char) :=
  let digits := chars.takeWhile Char.isDigit
  if digits.isEmpty then none
  else
    let nine := (digits ++ List.replicate 9 '0').take 9
    some (Text.decimal nine, chars.dropWhile Char.isDigit)

/-- The offset from UTC in seconds. -/
def offset? : List Char → Option (Int × List Char)
  | [] => none
  | sign :: rest =>
    if sign = 'Z' || sign = 'z' then some (0, rest)
    else if sign = '+' || sign = '-' || sign = '\u2212' then do
      let (hours, rest) ← fixedDigits? 2 rest
      let rest ← expect? ':' rest
      let (minutes, rest) ← fixedDigits? 2 rest
      if hours ≤ 23 && minutes ≤ 59 then
        let span : Int := hours * 3600 + minutes * 60
        return (if sign = '+' then span else -span, rest)
      else none
    else none

/-- The point in time that a text in the form of RFC 3339 denotes. The date and the time may also
be separated by a space, and the letters may be in lower case. -/
def parse? (text : String) : Option Timestamp := do
  let (year, rest) ← fixedDigits? 4 text.toList
  let rest ← expect? '-' rest
  let (month, rest) ← fixedDigits? 2 rest
  let rest ← expect? '-' rest
  let (day, rest) ← fixedDigits? 2 rest
  let rest ← match rest with
    | c :: rest => if c = 'T' || c = 't' || c = ' ' then some rest else none
    | [] => none
  let (hour, rest) ← fixedDigits? 2 rest
  let rest ← expect? ':' rest
  let (minute, rest) ← fixedDigits? 2 rest
  let rest ← expect? ':' rest
  let (second, rest) ← fixedDigits? 2 rest
  let (nanos, rest) ← match rest with
    | '.' :: rest => fraction? rest
    | rest => some (0, rest)
  let (offset, rest) ← offset? rest
  let valid := rest.isEmpty && 1 ≤ month && month ≤ 12 && 1 ≤ day &&
    (day : Int) ≤ daysInMonth year month && hour ≤ 23 && minute ≤ 59 && second ≤ 60
  if valid then
    let secondOfDay : Int := hour * 3600 + minute * 60 + min second 59
    some
      { seconds := daysOfDate year month day * secondsPerDay + secondOfDay - offset
        nanos := if second = 60 then nanos + nanosPerSecond else nanos }
  else none

/-- A number with at least so many digits. -/
def padded (width : Nat) (n : Nat) : String :=
  let digits := Nat.toDigits 10 n
  String.ofList (List.replicate (width - digits.length) '0' ++ digits)

/-- A year as it is written in a date: four digits, or a sign and at least five characters outside
of the years 0 to 9999. -/
def writtenYear (year : Int) : String :=
  if 0 ≤ year && year ≤ 9999 then padded 4 year.toNat
  else if year < 0 then "-" ++ padded 4 year.natAbs
  else "+" ++ padded 4 year.natAbs

/-- The date and the time of day, to the second. -/
def writtenSeconds (t : Timestamp) : String :=
  let days := Int.fdiv t.seconds secondsPerDay
  let (year, month, day) := dateOfDays days
  let second := (t.seconds - days * secondsPerDay).toNat
  let shown := second % 60 + t.nanos / nanosPerSecond
  writtenYear year ++ "-" ++ padded 2 month.toNat ++ "-" ++ padded 2 day.toNat ++ "T" ++
    padded 2 (second / 3600) ++ ":" ++ padded 2 (second / 60 % 60) ++ ":" ++ padded 2 shown

/-- The written form to the second. -/
def toSecondsText (t : Timestamp) : String :=
  t.writtenSeconds ++ "Z"

/-- The written form with six digits after the point. -/
def toMicrosText (t : Timestamp) : String :=
  t.writtenSeconds ++ "." ++ padded 6 (t.nanos % nanosPerSecond / 1000) ++ "Z"

/-- The written form with 0, 3, 6 or 9 digits after the point, the fewest that are exact. -/
def toExactText (t : Timestamp) : String :=
  let nanos := t.nanos % nanosPerSecond
  let fraction :=
    if nanos = 0 then ""
    else if nanos % 1000000 = 0 then "." ++ padded 3 (nanos / 1000000)
    else if nanos % 1000 = 0 then "." ++ padded 6 (nanos / 1000)
    else "." ++ padded 9 nanos
  t.writtenSeconds ++ fraction ++ "Z"

end Timestamp

end MachineProvider
