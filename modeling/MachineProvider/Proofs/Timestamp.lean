import MachineProvider.Proofs.Calendar
import MachineProvider.Timestamp.Lenient
import Mathlib.Algebra.Group.Nat.Defs

/-!
# Points in time come back as they were written

A time is written to the second or with six digits after the point, and is read part by part. Each
part ends where a character follows that is not a digit, so the numbers that are read are those that
were written (`Timestamp.parseLenient?_of_parts`), and they make up the time to the second
(`Timestamp.parseLenient?_toSecondsText`) or to the microsecond
(`Timestamp.parseLenient?_toMicrosText`). Every time that was read can be written and read again
(`Timestamp.isCanonical_of_parseLenient?`).
-/

namespace MachineProvider

namespace Text

theorem decimal_toDigits (n : Nat) : decimal (Nat.toDigits 10 n) = n := by
  calc decimal (Nat.toDigits 10 n)
      = Nat.ofDigitChars 10 (Nat.toDigits 10 n) 0 := by
        simp only [decimal, Nat.ofDigitChars, Nat.mul_comm]
    _ = n := Nat.ofDigitChars_ten_toDigits

theorem decimal_replicate_append (count : Nat) (chars : List Char) :
    decimal (List.replicate count '0' ++ chars) = decimal chars := by
  induction count with
  | zero => rfl
  | succ count ih => exact ih

/-- A number is less than any number of more digits. -/
theorem decimal_lt {chars : List Char} (digits : ∀ c ∈ chars, c.isDigit = true) :
    decimal chars < 10 ^ chars.length := by
  have bound (n : Nat) :
      chars.foldl (fun n c => n * 10 + (c.toNat - '0'.toNat)) n < (n + 1) * 10 ^ chars.length := by
    induction chars generalizing n with
    | nil => simp
    | cons c rest ih =>
        have digit : c.toNat - '0'.toNat ≤ 9 := by
          have isDigit := digits c List.mem_cons_self
          simp only [Char.isDigit, Bool.and_eq_true, decide_eq_true_eq] at isDigit
          have last : c.toNat ≤ 57 := isDigit.2
          have zero : '0'.toNat = 48 := rfl
          omega
        calc (c :: rest).foldl (fun n c => n * 10 + (c.toNat - '0'.toNat)) n
            < (n * 10 + (c.toNat - '0'.toNat) + 1) * 10 ^ rest.length :=
              ih (fun c mem => digits c (List.mem_cons_of_mem _ mem)) _
          _ ≤ ((n + 1) * 10) * 10 ^ rest.length := Nat.mul_le_mul_right _ (by omega)
          _ = (n + 1) * 10 ^ (c :: rest).length := by
              rw [List.length_cons, Nat.pow_succ, Nat.mul_assoc, Nat.mul_comm 10]
  simpa [decimal] using bound 0

theorem isBlank_of_isDigit {c : Char} (digit : c.isDigit = true) : isBlank c = false := by
  simp only [Char.isDigit, Bool.and_eq_true, decide_eq_true_eq] at digit
  have first : 48 ≤ c.toNat := digit.1
  have last : c.toNat ≤ 57 := digit.2
  simp only [isBlank, Bool.or_eq_false_iff, Bool.and_eq_false_iff, decide_eq_false_iff_not]
  omega

end Text

namespace Timestamp

open Text

section Padded

variable {c : Char} {rest : List Char} {width n : Nat}

theorem toList_padded (width n : Nat) : (padded width n).toList =
    List.replicate (width - (Nat.toDigits 10 n).length) '0' ++ Nat.toDigits 10 n := by
  simp [padded]

theorem decimal_padded (width n : Nat) : decimal (padded width n).toList = n := by
  rw [toList_padded, decimal_replicate_append, decimal_toDigits]

theorem isDigit_of_mem_padded (mem : c ∈ (padded width n).toList) : c.isDigit = true := by
  rw [toList_padded] at mem
  rcases List.mem_append.mp mem with zero | digit
  · rw [List.eq_of_mem_replicate zero]
    decide
  · exact Nat.isDigit_of_mem_toDigits (by decide) (by decide) digit

theorem length_padded (pos : 0 < width) (fits : n < 10 ^ width) :
    (padded width n).toList.length = width := by
  have short : (Nat.toDigits 10 n).length ≤ width :=
    (Nat.length_toDigits_le_iff (by decide) pos).mpr fits
  simp only [toList_padded, List.length_append, List.length_replicate]
  omega

/-- The digits of a number begin with a digit. -/
theorem exists_padded_eq (width n : Nat) :
    ∃ first others, (padded width n).toList = first :: others ∧ first.isDigit = true := by
  cases digits : (padded width n).toList with
  | nil =>
      have none := (List.append_eq_nil_iff.mp ((toList_padded width n).symm.trans digits)).2
      exact absurd none Nat.toDigits_ne_nil
  | cons first others =>
      exact ⟨first, others, rfl, isDigit_of_mem_padded (digits ▸ List.mem_cons_self)⟩

theorem takeWhile_padded (ends : c.isDigit = false) :
    ((padded width n).toList ++ c :: rest).takeWhile Char.isDigit = (padded width n).toList := by
  rw [List.takeWhile_append_of_pos fun c => isDigit_of_mem_padded,
    List.takeWhile_cons_of_neg (by simp [ends]), List.append_nil]

theorem dropWhile_padded (ends : c.isDigit = false) :
    ((padded width n).toList ++ c :: rest).dropWhile Char.isDigit = c :: rest := by
  rw [List.dropWhile_append_of_pos fun c => isDigit_of_mem_padded,
    List.dropWhile_cons_of_neg (by simp [ends])]

theorem skipBlanks_padded :
    skipBlanks ((padded width n).toList ++ rest) = (padded width n).toList ++ rest := by
  obtain ⟨first, others, digits, digit⟩ := exists_padded_eq width n
  rw [digits]
  exact List.dropWhile_cons_of_neg (by simp [isBlank_of_isDigit digit])

/-- A number is read up to the character after it. -/
theorem digits?_padded (ends : c.isDigit = false) {most : Option Nat}
    (fits : ∀ k, most = some k → (padded width n).toList.length ≤ k) :
    digits? most ((padded width n).toList ++ c :: rest) = some (n, c :: rest) := by
  obtain ⟨first, others, nonempty, -⟩ := exists_padded_eq width n
  have isEmpty : (padded width n).toList.isEmpty = false := by simp [nonempty]
  unfold digits?
  simp only [takeWhile_padded ends]
  cases most with
  | none => simp [isEmpty, decimal_padded]
  | some k => simp [List.take_of_length_le (fits k rfl), isEmpty, decimal_padded]

theorem part?_padded (ends : c.isDigit = false) (fits : n < 100) :
    part? ((padded 2 n).toList ++ c :: rest) = some (n, c :: rest) := by
  rw [part?, skipBlanks_padded]
  refine digits?_padded ends ?_
  rintro _ ⟨⟩
  exact Nat.le_of_eq (length_padded (by decide) fits)

theorem fraction?_padded (ends : c.isDigit = false) (fits : n < 1000000) :
    fraction? ((padded 6 n).toList ++ c :: rest) = some (n * 1000, c :: rest) := by
  obtain ⟨first, others, nonempty, -⟩ := exists_padded_eq 6 n
  have isEmpty : (padded 6 n).toList.isEmpty = false := by simp [nonempty]
  have six : (padded 6 n).toList.length = 6 := length_padded (by decide) fits
  have nine : ((padded 6 n).toList ++ List.replicate 9 '0').take 9 =
      (padded 6 n).toList ++ ['0', '0', '0'] := by
    rw [List.take_append, six, List.take_of_length_le (by omega)]
    rfl
  have value : decimal ((padded 6 n).toList ++ ['0', '0', '0']) = n * 1000 := by
    rw [decimal, List.foldl_append, ← decimal, decimal_padded]
    simp only [List.foldl_cons, List.foldl_nil, Nat.sub_self]
    omega
  unfold fraction?
  simp only [takeWhile_padded ends, dropWhile_padded ends, nine, value, isEmpty]
  rfl

theorem separator?_cons (c : Char) (rest : List Char) (visible : isBlank c = false) :
    separator? c (c :: rest) = some rest := by
  have stays : skipBlanks (c :: rest) = c :: rest := List.dropWhile_cons_of_neg (by simp [visible])
  rw [separator?, stays]
  exact if_pos rfl

/-- A year without a sign. -/
theorem year?_of_isDigit {first : Char} {others : List Char} (digit : first.isDigit = true) :
    year? (first :: others) =
      (digits? (some 4) (first :: others)).map fun (n, rest) => ((n : Int), rest) := by
  have stays : skipBlanks (first :: others) = first :: others :=
    List.dropWhile_cons_of_neg (by simp [isBlank_of_isDigit digit])
  rw [year?, stays]
  split
  next sign =>
    cases sign
    exact absurd digit (by decide)
  next sign =>
    cases sign
    exact absurd digit (by decide)
  next => rfl

/-- A year with a sign. -/
theorem year?_minus (chars : List Char) :
    year? ('-' :: chars) = (digits? none chars).map fun (n, rest) => (-(n : Int), rest) := by
  have stays : skipBlanks ('-' :: chars) = '-' :: chars := List.dropWhile_cons_of_neg (by decide)
  simp only [year?, stays]

theorem year?_plus (chars : List Char) :
    year? ('+' :: chars) = (digits? none chars).map fun (n, rest) => ((n : Int), rest) := by
  have stays : skipBlanks ('+' :: chars) = '+' :: chars := List.dropWhile_cons_of_neg (by decide)
  simp only [year?, stays]

theorem year?_writtenYear (year : Int) (ends : c.isDigit = false) :
    year? ((writtenYear year).toList ++ c :: rest) = some (year, c :: rest) := by
  unfold writtenYear
  split
  next common =>
    simp only [Bool.and_eq_true, decide_eq_true_eq] at common
    have fits : year.toNat < 10 ^ 4 := by omega
    have read : digits? (some 4) ((padded 4 year.toNat).toList ++ c :: rest) =
        some (year.toNat, c :: rest) := by
      refine digits?_padded ends ?_
      rintro _ ⟨⟩
      exact Nat.le_of_eq (length_padded (by decide) fits)
    obtain ⟨first, others, digits, digit⟩ := exists_padded_eq 4 year.toNat
    rw [digits] at read ⊢
    rw [List.cons_append] at read ⊢
    rw [year?_of_isDigit digit, read]
    simp [Int.toNat_of_nonneg common.1]
  next rare =>
    have read : digits? none ((padded 4 year.natAbs).toList ++ c :: rest) =
        some (year.natAbs, c :: rest) := digits?_padded ends (fun _ none => nomatch none)
    split
    next negative =>
      have written : ("-" ++ padded 4 year.natAbs).toList ++ c :: rest =
          '-' :: ((padded 4 year.natAbs).toList ++ c :: rest) := by simp
      have abs : -(year.natAbs : Int) = year := by omega
      rw [written, year?_minus, read, Option.map_some]
      exact congrArg (fun y => some (y, c :: rest)) abs
    next positive =>
      simp only [Bool.and_eq_true, decide_eq_true_eq] at rare
      have written : ("+" ++ padded 4 year.natAbs).toList ++ c :: rest =
          '+' :: ((padded 4 year.natAbs).toList ++ c :: rest) := by simp
      have abs : (year.natAbs : Int) = year := by omega
      rw [written, year?_plus, read, Option.map_some]
      exact congrArg (fun y => some (y, c :: rest)) abs

end Padded

/-- What may follow the seconds of a written time, and the nanoseconds that it stands for. -/
inductive EndsIn : List Char → Nat → Prop
  | whole : EndsIn ['Z'] 0
  | micros {micros : Nat} (fits : micros < 1000000) :
    EndsIn ('.' :: ((padded 6 micros).toList ++ ['Z'])) (micros * 1000)

/-- A written time is taken apart into the numbers that it was made of. -/
theorem parseLenient?_of_parts {text : String} {year : Int}
    {month day hour minute second nanos : Nat} {ending : List Char} (ends : EndsIn ending nanos)
    (written : text.toList = (writtenYear year).toList ++ '-' :: ((padded 2 month).toList ++
      '-' :: ((padded 2 day).toList ++ 'T' :: ((padded 2 hour).toList ++
      ':' :: ((padded 2 minute).toList ++ ':' :: ((padded 2 second).toList ++ ending))))))
    (isDate : 1 ≤ month ∧ month ≤ 12 ∧ 1 ≤ day ∧ (day : Int) ≤ daysInMonth year month)
    (isTime : hour ≤ 23 ∧ minute ≤ 59 ∧ second ≤ 60)
    (representable : isRepresentable (daysOfDate year month day * secondsPerDay +
      (hour * 3600 + minute * 60 + min second 59 : Nat)) = true) :
    parseLenient? text = some
      { seconds := daysOfDate year month day * secondsPerDay +
          (hour * 3600 + minute * 60 + min second 59 : Nat)
        nanos := if second = 60 then nanos + nanosPerSecond else nanos } := by
  obtain ⟨month_pos, month_le, day_pos, day_le⟩ := isDate
  obtain ⟨hour_le, minute_le, second_le⟩ := isTime
  have month_lt : month < 100 := by omega
  have day_lt : day < 100 := by
    have month_long : daysInMonth year month ≤ 31 := by
      unfold daysInMonth
      repeat' split
      all_goals decide
    omega
  have hour_lt : hour < 100 := by omega
  have minute_lt : minute < 100 := by omega
  have second_lt : second < 100 := by omega
  have empty : (skipBlanks []).isEmpty = true := rfl
  have inRange : (true && 1 ≤ month && month ≤ 12 && 1 ≤ day &&
      (day : Int) ≤ daysInMonth year month && hour ≤ 23 && minute ≤ 59 && second ≤ 60) = true := by
    simp only [month_pos, month_le, day_pos, day_le, hour_le, minute_le, second_le, decide_true,
      Bool.and_self]
  unfold parseLenient?
  rw [written]
  -- Each part ends where the next separator begins.
  refine Option.bind_eq_some_iff.mpr ⟨_, year?_writtenYear year (c := '-') rfl, ?_⟩
  refine Option.bind_eq_some_iff.mpr ⟨_, separator?_cons '-' _ rfl, ?_⟩
  refine Option.bind_eq_some_iff.mpr ⟨_, part?_padded (c := '-') rfl month_lt, ?_⟩
  refine Option.bind_eq_some_iff.mpr ⟨_, separator?_cons '-' _ rfl, ?_⟩
  refine Option.bind_eq_some_iff.mpr ⟨_, part?_padded (c := 'T') rfl day_lt, ?_⟩
  refine (if_pos rfl).trans (Option.bind_eq_some_iff.mpr ⟨_, rfl, ?_⟩)
  refine Option.bind_eq_some_iff.mpr ⟨_, part?_padded (c := ':') rfl hour_lt, ?_⟩
  refine Option.bind_eq_some_iff.mpr ⟨_, separator?_cons ':' _ rfl, ?_⟩
  refine Option.bind_eq_some_iff.mpr ⟨_, part?_padded (c := ':') rfl minute_lt, ?_⟩
  refine Option.bind_eq_some_iff.mpr ⟨_, separator?_cons ':' _ rfl, ?_⟩
  cases ends with
  | whole =>
      refine Option.bind_eq_some_iff.mpr ⟨_, part?_padded (c := 'Z') rfl second_lt, ?_⟩
      refine Option.bind_eq_some_iff.mpr ⟨(0, ['Z']), rfl, ?_⟩
      refine Option.bind_eq_some_iff.mpr ⟨(0, []), rfl, ?_⟩
      simp only [empty, Int.sub_zero, representable, inRange, Bool.and_self, if_true]
  | micros fits =>
      refine Option.bind_eq_some_iff.mpr ⟨_, part?_padded (c := '.') rfl second_lt, ?_⟩
      refine Option.bind_eq_some_iff.mpr ⟨_, fraction?_padded (c := 'Z') rfl fits, ?_⟩
      refine Option.bind_eq_some_iff.mpr ⟨(0, []), rfl, ?_⟩
      simp only [empty, Int.sub_zero, representable, inRange, Bool.and_self, if_true]

/-- A point in time to the second. A leap second stays one. -/
def inSeconds (t : Timestamp) : Timestamp :=
  { t with nanos := t.nanos / nanosPerSecond * nanosPerSecond }

/-- A point in time to the microsecond. -/
def inMicros (t : Timestamp) : Timestamp :=
  { t with nanos := t.nanos / 1000 * 1000 }

/-- What is written is the same to the microsecond. -/
theorem toMicrosText_inMicros (t : Timestamp) : t.inMicros.toMicrosText = t.toMicrosText := by
  have second : t.nanos / 1000 * 1000 / nanosPerSecond = t.nanos / nanosPerSecond := by
    unfold nanosPerSecond
    omega
  have micros : t.nanos / 1000 * 1000 % nanosPerSecond / 1000 =
      t.nanos % nanosPerSecond / 1000 := by
    unfold nanosPerSecond
    omega
  simp only [toMicrosText, writtenSeconds, inMicros, second, micros]

/-- A point in time that can be written: its second can be represented, and a leap second is the
last one of its minute. -/
structure IsCanonical (t : Timestamp) : Prop where
  representable : isRepresentable t.seconds = true
  nanos : t.nanos < nanosPerSecond ∨ t.nanos < 2 * nanosPerSecond ∧ t.seconds % 60 = 59

/-- The date and the time of day are read again, with the nanoseconds that follow them. -/
theorem parseLenient?_of_writtenSeconds {t : Timestamp} (canonical : t.IsCanonical) {text : String}
    {ending : List Char} {nanos : Nat} (ends : EndsIn ending nanos)
    (written : text.toList = t.writtenSeconds.toList ++ ending) :
    parseLenient? text = some { t.inSeconds with nanos := t.inSeconds.nanos + nanos } := by
  obtain ⟨representable, regular⟩ := canonical
  obtain ⟨days, isDays⟩ : ∃ days, days = t.seconds / 86400 := ⟨_, rfl⟩
  obtain ⟨second, isSecond⟩ : ∃ second, second = (t.seconds - days * 86400).toNat := ⟨_, rfl⟩
  obtain ⟨year, month, day, date, isDate, isDay⟩ := exists_date days
  obtain ⟨shown, isShown⟩ : ∃ shown, shown = second % 60 + t.nanos / nanosPerSecond := ⟨_, rfl⟩
  have second_lt : second < 86400 := by omega
  have shown_le : shown ≤ 60 := by
    unfold nanosPerSecond at *
    omega
  have minute : min shown 59 = second % 60 := by
    unfold nanosPerSecond at *
    omega
  have leap : shown = 60 ↔ nanosPerSecond ≤ t.nanos := by
    unfold nanosPerSecond at *
    omega
  have there : daysOfDate year month day * secondsPerDay +
      (second / 3600 * 3600 + second / 60 % 60 * 60 + min shown 59 : Nat) = t.seconds := by
    rw [isDay, minute, secondsPerDay]
    omega
  have parts : text.toList = (writtenYear year).toList ++
      '-' :: ((padded 2 month).toList ++ '-' :: ((padded 2 day).toList ++
      'T' :: ((padded 2 (second / 3600)).toList ++ ':' :: ((padded 2 (second / 60 % 60)).toList ++
      ':' :: ((padded 2 shown).toList ++ ending))))) := by
    have sameDays : Int.fdiv t.seconds secondsPerDay = days := by
      rw [isDays]
      exact Int.fdiv_eq_ediv_of_nonneg _ (by decide)
    have sameSecond : (t.seconds - days * secondsPerDay).toNat = second := isSecond.symm
    rw [written]
    simp [writtenSeconds, sameDays, date, sameSecond, ← isShown]
  rw [parseLenient?_of_parts ends parts isDate ⟨by omega, by omega, shown_le⟩
    (there ▸ representable), there]
  simp only [inSeconds, leap, Option.some.injEq, mk.injEq, true_and]
  unfold nanosPerSecond at *
  split <;> omega

/-- What is written is read again, to the second. -/
theorem parseLenient?_toSecondsText {t : Timestamp} (canonical : t.IsCanonical) :
    parseLenient? t.toSecondsText = some t.inSeconds := by
  have written : t.toSecondsText.toList = t.writtenSeconds.toList ++ ['Z'] :=
    String.toList_append ..
  rw [parseLenient?_of_writtenSeconds canonical .whole written, Nat.add_zero]

/-- What is written is read again, to the microsecond. -/
theorem parseLenient?_toMicrosText {t : Timestamp} (canonical : t.IsCanonical) :
    parseLenient? t.toMicrosText = some t.inMicros := by
  have fits : t.nanos % nanosPerSecond / 1000 < 1000000 := by
    unfold nanosPerSecond
    omega
  have sum : t.inSeconds.nanos + t.nanos % nanosPerSecond / 1000 * 1000 = t.inMicros.nanos := by
    unfold inSeconds inMicros nanosPerSecond
    dsimp only
    omega
  have written : t.toMicrosText.toList = t.writtenSeconds.toList ++
      '.' :: ((padded 6 (t.nanos % nanosPerSecond / 1000)).toList ++ ['Z']) := by
    simp [toMicrosText]
  rw [parseLenient?_of_writtenSeconds canonical (.micros fits) written, sum]
  rfl

/-- A fraction of a second is less than a second. -/
theorem fraction?_lt {chars rest : List Char} {nanos : Nat}
    (read : fraction? chars = some (nanos, rest)) : nanos < nanosPerSecond := by
  unfold fraction? at read
  dsimp only at read
  split at read
  next => cases read
  next =>
    cases read
    have digits : ∀ c ∈ (chars.takeWhile Char.isDigit ++ List.replicate 9 '0').take 9,
        c.isDigit = true := by
      intro c mem
      rcases List.mem_append.mp (List.mem_of_mem_take mem) with digit | zero
      · exact List.all_eq_true.mp (List.all_takeWhile) c digit
      · rw [List.eq_of_mem_replicate zero]
        decide
    have bound := decimal_lt digits
    have nine : ((chars.takeWhile Char.isDigit ++ List.replicate 9 '0').take 9).length ≤ 9 :=
      List.length_take_le _ _
    exact Nat.lt_of_lt_of_le bound (Nat.pow_le_pow_right (by decide) nine)

/-- An offset is a number of minutes. -/
theorem lenientOffset?_emod {chars rest : List Char} {offset : Int}
    (read : lenientOffset? chars = some (offset, rest)) : offset % 60 = 0 := by
  unfold lenientOffset? at read
  split at read
  · cases read
    rfl
  split at read
  · cases read
  split at read
  · cases read
    rfl
  split at read
  · simp only [Option.bind_eq_bind, Option.bind_eq_some_iff] at read
    obtain ⟨⟨hours, rest'⟩, -, ⟨minutes, rest''⟩, -, read⟩ := read
    dsimp only at read
    split at read
    · cases read
      split <;> omega
    · cases read
  · cases read

/-- The point in time that the parts of a text make up can be written. -/
theorem isCanonical_of_parts {valid : Bool} {there offset : Int} {second nanos : Nat}
    {t : Timestamp} (fraction : nanos < nanosPerSecond) (shift : offset % 60 = 0)
    (leap : second = 60 → there % 60 = 59)
    (read : (if (valid && isRepresentable there && isRepresentable (there - offset)) = true then
      some
        { seconds := there - offset
          nanos := if second = 60 then nanos + nanosPerSecond else nanos : Timestamp }
      else none) = some t) : t.IsCanonical := by
  split at read
  next holds =>
    cases read
    simp only [Bool.and_eq_true] at holds
    refine ⟨holds.2, ?_⟩
    dsimp only
    split
    next isLeap =>
      have last := leap isLeap
      exact .inr ⟨by omega, by omega⟩
    next => exact .inl fraction
  next => cases read

/-- What is read can be written. -/
theorem isCanonical_of_parseLenient? {text : String} {t : Timestamp}
    (read : parseLenient? text = some t) : t.IsCanonical := by
  have last (days : Int) (hour minute second : Nat) (leap : second = 60) :
      (days * secondsPerDay + (hour * 3600 + minute * 60 + min second 59 : Nat)) % 60 = 59 := by
    unfold secondsPerDay
    omega
  unfold parseLenient? at read
  obtain ⟨⟨year, _⟩, -, read⟩ := Option.bind_eq_some_iff.mp read
  obtain ⟨_, -, read⟩ := Option.bind_eq_some_iff.mp read
  obtain ⟨⟨month, _⟩, -, read⟩ := Option.bind_eq_some_iff.mp read
  obtain ⟨_, -, read⟩ := Option.bind_eq_some_iff.mp read
  obtain ⟨⟨day, rest⟩, -, read⟩ := Option.bind_eq_some_iff.mp read
  dsimp only at read
  split at read
  next =>
    split at read
    next =>
      obtain ⟨_, -, read⟩ := Option.bind_eq_some_iff.mp read
      obtain ⟨⟨hour, _⟩, -, read⟩ := Option.bind_eq_some_iff.mp read
      obtain ⟨_, -, read⟩ := Option.bind_eq_some_iff.mp read
      obtain ⟨⟨minute, _⟩, -, read⟩ := Option.bind_eq_some_iff.mp read
      obtain ⟨_, -, read⟩ := Option.bind_eq_some_iff.mp read
      obtain ⟨⟨second, rest⟩, -, read⟩ := Option.bind_eq_some_iff.mp read
      dsimp only at read
      split at read
      next =>
        obtain ⟨⟨nanos, _⟩, fraction, read⟩ := Option.bind_eq_some_iff.mp read
        obtain ⟨⟨offset, _⟩, shift, read⟩ := Option.bind_eq_some_iff.mp read
        exact isCanonical_of_parts (fraction?_lt fraction) (lenientOffset?_emod shift)
          (last _ hour minute second) read
      next =>
        obtain ⟨⟨nanos, _⟩, whole, read⟩ := Option.bind_eq_some_iff.mp read
        obtain ⟨⟨offset, _⟩, shift, read⟩ := Option.bind_eq_some_iff.mp read
        cases whole
        have fraction : 0 < nanosPerSecond := by decide
        exact isCanonical_of_parts fraction (lenientOffset?_emod shift)
          (last _ hour minute second) read
    next => cases read
  next => cases read

end Timestamp

end MachineProvider
