/-!
# Digits and numbers

The values of digits, and the numbers that rows of digits stand for in a base. A letter of either
case stands for a value from ten on.
-/

namespace MachineProvider.Text

/-- The value of a hexadecimal digit. -/
def hexDigit? (c : Char) : Option Nat :=
  if '0' ≤ c && c ≤ '9' then some (c.toNat - '0'.toNat)
  else if 'a' ≤ c && c ≤ 'f' then some (c.toNat - 'a'.toNat + 10)
  else if 'A' ≤ c && c ≤ 'F' then some (c.toNat - 'A'.toNat + 10)
  else none

/-- The value of a digit of a base up to sixteen. -/
def digit? (base : Nat) (c : Char) : Option Nat := (hexDigit? c).filter (· < base)

/-- The value of a digit of a base is smaller than the base. -/
theorem digit?_lt {base : Nat} {c : Char} {d : Nat} (h : digit? base c = some d) : d < base := by
  simp only [digit?, Option.filter_eq_some_iff, decide_eq_true_eq] at h
  exact h.2

/-- The number that digits stand for, the most significant first. -/
def ofDigits (base : Nat) (digits : List Nat) : Nat :=
  digits.foldl (fun n d => n * base + d) 0

/-- The number that a row of at least one digit stands for. -/
def number? (base : Nat) (chars : List Char) : Option Nat :=
  if chars.isEmpty then none else (chars.mapM (digit? base)).map (ofDigits base)

/-- The number that decimal digits stand for. -/
def decimal (chars : List Char) : Nat :=
  chars.foldl (fun n c => n * 10 + (c.toNat - '0'.toNat)) 0

/-- The decimal number at the beginning of a text and what comes after it. -/
def takeNumber? (base : Nat) (chars : List Char) : Option (Nat × List Char) :=
  let digits := chars.takeWhile fun c => (digit? base c).isSome
  (number? base digits).map fun n => (n, chars.drop digits.length)

end MachineProvider.Text
