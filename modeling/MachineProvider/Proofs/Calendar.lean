import MachineProvider.Timestamp

/-!
# Dates of the calendar

Days are counted from the beginning of 1970, and `Timestamp.dateOfDays` says which date a day has. It
counts eras of 400 years, in which the calendar repeats itself, and years from March on, so that a leap
day is the last day of its year. The date of a day is a date that there is, and it is that of no other
day (`Timestamp.exists_date`).
-/

namespace MachineProvider

namespace Timestamp

/-- How many days of an era of 400 years are over when a year of it begins. The years are counted
from March to February, so that a leap day is the last day of its year. -/
def daysBefore (yearOfEra : Int) : Int :=
  yearOfEra * 365 + yearOfEra / 4 - yearOfEra / 100

/-- A day of an era falls into the year that is computed for it. The last day of an era is left out;
it is the leap day of the last year. -/
theorem daysBefore_le_and_lt {day year : Int} (nonneg : 0 ≤ day) (early : day < 146096)
    (computed : year = (day - day / 1460 + day / 36524 - day / 146096) / 365) :
    0 ≤ year ∧ year ≤ 399 ∧ daysBefore year ≤ day ∧ day < daysBefore (year + 1) := by
  -- Four years have one day more than the 1460 that are counted by here, except once in a century;
  -- `rest` says how many years are over since, once both have been taken into account.
  obtain ⟨cycle, hc⟩ : ∃ cycle, cycle = day / 1460 := ⟨_, rfl⟩
  obtain ⟨rest, hr⟩ : ∃ rest, rest = (day - 1460 * cycle + day / 36524 - cycle) / 365 := ⟨_, rfl⟩
  have noEra : day / 146096 = 0 := by omega
  rw [noEra, ← hc] at computed
  have split : year = 4 * cycle + rest := by omega
  have range : rest = -1 ∨ rest = 0 ∨ rest = 1 ∨ rest = 2 ∨ rest = 3 := by omega
  have century : year / 100 = day / 36524 := by
    have which : day / 36524 = 0 ∨ day / 36524 = 1 ∨ day / 36524 = 2 ∨ day / 36524 = 3 := by omega
    rcases which with h | h | h | h <;> rw [h] at hr computed ⊢ <;> omega
  have leaps : year / 4 = cycle + rest / 4 := by omega
  unfold daysBefore
  refine ⟨by omega, by omega, by omega, ?_⟩
  rcases (by omega : year + 1 < 100 * (day / 36524 + 1) ∨ year + 1 = 100 * (day / 36524 + 1)) with
    within | last <;> omega

/-- The days of an era, with the year and the day of the year that each of them falls on. -/
theorem yearOfEra_spec {day year dayOfYear : Int} (nonneg : 0 ≤ day) (within : day < 146097)
    (computed : year = (day - day / 1460 + day / 36524 - day / 146096) / 365)
    (rest : dayOfYear = day - daysBefore year) :
    (0 ≤ year ∧ year ≤ 399) ∧ (0 ≤ dayOfYear ∧ dayOfYear ≤ 365) ∧
      (dayOfYear = 365 → (year + 1) % 4 = 0 ∧ ((year + 1) % 100 ≠ 0 ∨ (year + 1) % 400 = 0)) := by
  rcases (by omega : day < 146096 ∨ day = 146096) with early | rfl
  · obtain ⟨first, last, begun, ended⟩ := daysBefore_le_and_lt nonneg early computed
    unfold daysBefore at begun ended rest
    have quarter : (year + 1) / 4 ≤ year / 4 + 1 := by omega
    have century : year / 100 ≤ (year + 1) / 100 := by omega
    clear computed
    refine ⟨⟨first, last⟩, ⟨by omega, by omega⟩, ?_⟩
    intro leapDay
    have leap : (year + 1) / 4 = year / 4 + 1 ∧ (year + 1) / 100 = year / 100 := by omega
    omega
  · obtain rfl : year = 399 := computed
    obtain rfl : dayOfYear = 365 := rest
    decide

/-- A day, with the era, the year, the day of the year and the month that it falls on. Years and
months are counted from March on. -/
structure IsDay (days era year dayOfYear month : Int) : Prop where
  days_eq : days + 719468 = era * 146097 + daysBefore year + dayOfYear
  year_nonneg : 0 ≤ year
  year_le : year ≤ 399
  dayOfYear_nonneg : 0 ≤ dayOfYear
  dayOfYear_le : dayOfYear ≤ 365
  leap : dayOfYear = 365 → (year + 1) % 4 = 0 ∧ ((year + 1) % 100 ≠ 0 ∨ (year + 1) % 400 = 0)
  month_eq : month = (5 * dayOfYear + 2) / 153

/-- Every day is one of an era, a year and a month, and its date says which. -/
theorem exists_isDay (days : Int) : ∃ era year dayOfYear month,
    IsDay days era year dayOfYear month ∧
      dateOfDays days =
        (if month < 10 then year + era * 400 else year + era * 400 + 1,
          if month < 10 then month + 3 else month - 9,
          dayOfYear - (153 * month + 2) / 5 + 1) := by
  let era := (days + 719468) / 146097
  let day := days + 719468 - era * 146097
  let year := (day - day / 1460 + day / 36524 - day / 146096) / 365
  let dayOfYear := day - (365 * year + year / 4 - year / 100)
  let month := (5 * dayOfYear + 2) / 153
  have nonneg : 0 ≤ day := by omega
  have within : day < 146097 := by omega
  have rest : dayOfYear = day - daysBefore year := by
    rw [daysBefore, Int.mul_comm year]
  obtain ⟨⟨year_nonneg, year_le⟩, ⟨dayOfYear_nonneg, dayOfYear_le⟩, leap⟩ :=
    yearOfEra_spec nonneg within rfl rest
  refine ⟨era, year, dayOfYear, month,
    ⟨by omega, year_nonneg, year_le, dayOfYear_nonneg, dayOfYear_le, leap, rfl⟩, ?_⟩
  have eraIs : Int.fdiv (days + 719468) 146097 = era := Int.fdiv_eq_ediv_of_nonneg _ (by decide)
  have spring : (if month < 10 then month + 3 else month - 9) ≤ 2 ↔ ¬ month < 10 := by
    split <;> omega
  calc dateOfDays days
      = (if (if month < 10 then month + 3 else month - 9) ≤ 2 then year + era * 400 + 1
          else year + era * 400,
          if month < 10 then month + 3 else month - 9,
          dayOfYear - (153 * month + 2) / 5 + 1) := by
        simp only [dateOfDays, eraIs]
        rfl
    _ = _ := by simp only [spring, ite_not]

/-- The date of a day is the date of that day and no other. -/
theorem daysOfDate_dateOfDays (days : Int) :
    daysOfDate (dateOfDays days).1 (dateOfDays days).2.1 (dateOfDays days).2.2 = days := by
  obtain ⟨era, year, dayOfYear, month, isDay, date⟩ := exists_isDay days
  obtain ⟨days_eq, year_nonneg, year_le, dayOfYear_nonneg, dayOfYear_le, -, month_eq⟩ := isDay
  have eraIs : Int.fdiv (year + era * 400) 400 = era := by
    rw [Int.fdiv_eq_ediv_of_nonneg _ (by decide)]
    omega
  have yearIs : year + era * 400 - era * 400 = year := by omega
  rw [date]
  unfold daysOfDate daysBefore at *
  split
  next late =>
    have march : ¬ month + 3 ≤ 2 := by omega
    have after : month + 3 > 2 := by omega
    simp only [if_neg march, if_pos after, eraIs, yearIs]
    omega
  next early =>
    have january : month - 9 ≤ 2 := by omega
    have before : ¬ month - 9 > 2 := by omega
    simp only [if_pos january, if_neg before, Int.add_sub_cancel, eraIs, yearIs]
    omega

theorem isLeapYear_iff (year : Int) :
    isLeapYear year = true ↔ year % 4 = 0 ∧ (year % 100 ≠ 0 ∨ year % 400 = 0) := by
  simp [isLeapYear]

/-- The date of a day is one of the calendar. -/
theorem dateOfDays_mem (days : Int) :
    (1 ≤ (dateOfDays days).2.1 ∧ (dateOfDays days).2.1 ≤ 12) ∧ 1 ≤ (dateOfDays days).2.2 ∧
      (dateOfDays days).2.2 ≤ daysInMonth (dateOfDays days).1 (dateOfDays days).2.1 := by
  obtain ⟨era, year, dayOfYear, month, isDay, date⟩ := exists_isDay days
  obtain ⟨-, -, -, dayOfYear_nonneg, dayOfYear_le, leap, month_eq⟩ := isDay
  rw [date]
  dsimp only
  refine ⟨?_, by omega, ?_⟩
  · constructor <;> split <;> omega
  split
  next late =>
    have notFebruary : month + 3 ≠ 2 := by omega
    simp only [daysInMonth, if_neg notFebruary, Bool.or_eq_true, decide_eq_true_eq]
    split <;> omega
  next early =>
    by_cases february : month = 11
    · have same : month - 9 = 2 := by omega
      rw [daysInMonth, if_pos same]
      split
      next => omega
      next common =>
        rw [isLeapYear_iff] at common
        omega
    · have notFebruary : month - 9 ≠ 2 := by omega
      simp only [daysInMonth, if_neg notFebruary, Bool.or_eq_true, decide_eq_true_eq]
      split <;> omega

/-- The date of a day is one of the calendar, and is the date of that day and no other. -/
theorem exists_date (days : Int) : ∃ (year : Int) (month day : Nat),
    dateOfDays days = (year, (month : Int), (day : Int)) ∧
      (1 ≤ month ∧ month ≤ 12 ∧ 1 ≤ day ∧ (day : Int) ≤ daysInMonth year month) ∧
      daysOfDate year month day = days := by
  obtain ⟨⟨month_pos, month_le⟩, day_pos, day_le⟩ := dateOfDays_mem days
  have same := daysOfDate_dateOfDays days
  obtain ⟨month, isMonth⟩ := Int.eq_ofNat_of_zero_le (show 0 ≤ (dateOfDays days).2.1 by omega)
  obtain ⟨day, isDay⟩ := Int.eq_ofNat_of_zero_le (show 0 ≤ (dateOfDays days).2.2 by omega)
  rw [isMonth] at month_pos month_le day_le same
  rw [isDay] at day_pos day_le same
  refine ⟨(dateOfDays days).1, month, day, ?_, ⟨by omega, by omega, by omega, day_le⟩, same⟩
  rw [← isMonth, ← isDay]

end Timestamp

end MachineProvider
