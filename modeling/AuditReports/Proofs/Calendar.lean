import Mathlib.Tactic.IntervalCases
import AuditReports.Calendar

/-!
# Days and dates

The number of a day is computed in one step from its date. Here it is shown to be what one gets by
counting: the lengths of the years since 1970, those of the months of the year, and the days of the
month. One year and one month are enough for that, the rest is induction.

The way back finds the date with a number, and there is only one, since the number is found again
from the date. Both ways go through a calendar in which a year begins in March. What has to be shown
of the way back is that the year it finds is the right one, neither one too early nor one too late:
then the day of that year is one of 366. The divisors in the formula take a day away for each cycle
of four years and give one back for each century. A cycle is a day longer than its divisor, so by
the end of a century the count is ahead by up to ninety-six days; but it is ahead only on the last
days of a cycle, and those are in its last year anyway.
-/

namespace AuditReports.Date

/-! ## Counting days -/

def daysInYear (year : Int) : Int :=
  if isLeapYear year then 366 else 365

/-- The days from the first of January 1970 to the first of January of another year. -/
def daysBeforeYear (year : Int) : Int :=
  ((List.range (year - 1970).toNat).map fun since : Nat => daysInYear (1970 + since)).sum -
    ((List.range (1970 - year).toNat).map fun before : Nat => daysInYear (1969 - before)).sum

def daysBeforeMonth (year : Int) (month : Nat) : Int :=
  ((List.range' 1 (month - 1)).map fun passed => (daysInMonth year passed : Int)).sum

/-- The days from the first of January 1970 to a date. -/
def daysSince1970 (date : Date) : Int :=
  daysBeforeYear date.year + daysBeforeMonth date.year date.month + (date.day - 1)

theorem daysBeforeYear_succ (year : Int) :
    daysBeforeYear (year + 1) = daysBeforeYear year + daysInYear year := by
  rcases lt_or_ge year 1970 with before | since
  · have none : (year + 1 - 1970).toNat = 0 := by omega
    have stillNone : (year - 1970).toNat = 0 := by omega
    have fewer : (1970 - year).toNat = (1970 - (year + 1)).toNat + 1 := by omega
    have least : 1969 - ((1970 - (year + 1)).toNat : Int) = year := by omega
    rw [daysBeforeYear, daysBeforeYear, none, stillNone, fewer, List.range_succ, List.map_append,
      List.sum_append, List.map_singleton, List.sum_singleton, least]
    omega
  · have none : (1970 - (year + 1)).toNat = 0 := by omega
    have stillNone : (1970 - year).toNat = 0 := by omega
    have more : (year + 1 - 1970).toNat = (year - 1970).toNat + 1 := by omega
    have greatest : 1970 + ((year - 1970).toNat : Int) = year := by omega
    rw [daysBeforeYear, daysBeforeYear, none, stillNone, more, List.range_succ, List.map_append,
      List.sum_append, List.map_singleton, List.sum_singleton, greatest]
    omega

theorem daysBeforeMonth_succ (year : Int) {month : Nat} (first : 1 ≤ month) :
    daysBeforeMonth year (month + 1) = daysBeforeMonth year month + daysInMonth year month := by
  rcases Nat.exists_eq_add_of_le' first with ⟨passed, rfl⟩
  simp only [daysBeforeMonth, Nat.add_sub_cancel, List.range'_concat, List.map_append,
    List.sum_append, List.map_singleton, List.sum_singleton]
  rw [Nat.one_mul, Nat.add_comm 1]

theorem dayNumber_succ_year (year : Int) :
    dayNumber ⟨year + 1, 1, 1⟩ = dayNumber ⟨year, 1, 1⟩ + daysInYear year := by
  simp only [dayNumber, daysInYear, isLeapYear, daysPerEra, eraStart]
  simp
  split <;> omega

theorem dayNumber_first_of_year (year : Int) :
    dayNumber ⟨year, 1, 1⟩ = daysBeforeYear year := by
  induction year using Int.inductionOn' (b := 1970) with
  | zero => rfl
  | succ year _ ih => rw [dayNumber_succ_year, daysBeforeYear_succ, ih]
  | pred year _ ih =>
      have numbers := dayNumber_succ_year (year - 1)
      have days := daysBeforeYear_succ (year - 1)
      rw [Int.sub_add_cancel] at numbers days
      omega

theorem dayNumber_succ_month (year : Int) {month : Nat} (first : 1 ≤ month) (last : month ≤ 11) :
    dayNumber ⟨year, month + 1, 1⟩ = dayNumber ⟨year, month, 1⟩ + daysInMonth year month := by
  -- Only at the end of February does it matter whether the year has a leap day; the other months are
  -- spaced by the formula alone.
  interval_cases month <;>
    simp [dayNumber, daysInMonth, isLeapYear, daysPerEra, eraStart] <;>
    (try split) <;> omega

theorem dayNumber_first_of_month (year : Int) {month : Nat} (first : 1 ≤ month)
    (last : month ≤ 12) :
    dayNumber ⟨year, month, 1⟩ = daysBeforeYear year + daysBeforeMonth year month := by
  induction month, first using Nat.le_induction with
  | base => simp [dayNumber_first_of_year, daysBeforeMonth]
  | succ month first ih =>
      rw [dayNumber_succ_month year first (by omega), ih (by omega), daysBeforeMonth_succ year first,
        Int.add_assoc]

/-- The number of a day is found by counting. -/
theorem dayNumber_eq {date : Date} (valid : date.valid = true) :
    date.dayNumber = daysSince1970 date := by
  rcases date with ⟨year, month, day⟩
  simp only [Date.valid, Bool.and_eq_true, decide_eq_true_eq] at valid
  have days : dayNumber ⟨year, month, day⟩ = dayNumber ⟨year, month, 1⟩ + (day - 1) := by
    simp only [dayNumber]
    omega
  rw [days, dayNumber_first_of_month year (by omega) (by omega)]
  rfl

/-! ## Years that begin in March -/

/-- A day of an era by the centuries, the cycles of four years, the years and the days that have
passed before it. A leap day is the last day of a cycle, and the last cycle of a century has one only
at the end of the era. -/
structure DayOfEra where
  century : Int
  cycle : Int
  year : Int
  day : Int
  centuries : 0 ≤ century ∧ century ≤ 3
  cycles : 0 ≤ cycle ∧ cycle ≤ 24
  years : 0 ≤ year ∧ year ≤ 3
  days : 0 ≤ day ∧ day ≤ 365
  leapDay : day = 365 → year = 3 ∧ (cycle = 24 → century = 3)

namespace DayOfEra

def number (date : DayOfEra) : Int :=
  36524 * date.century + 1461 * date.cycle + 365 * date.year + date.day

def yearOfEra (date : DayOfEra) : Int :=
  100 * date.century + 4 * date.cycle + date.year

theorem exists_of_number {number : Int} (first : 0 ≤ number) (last : number < daysPerEra) :
    ∃ date : DayOfEra, date.number = number := by
  rw [daysPerEra] at last
  by_cases final : number = 146096
  · exact ⟨⟨3, 24, 3, 365, by decide, by decide, by decide, by decide, by decide⟩, final.symm⟩
  · have century : number = 36524 * (number / 36524) + number % 36524 := by omega
    have ofCentury : 0 ≤ number % 36524 ∧ number % 36524 < 36524 := by omega
    have centuries : 0 ≤ number / 36524 ∧ number / 36524 ≤ 3 := by omega
    generalize number % 36524 = rest at *
    have cycle : rest = 1461 * (rest / 1461) + rest % 1461 := by omega
    have ofCycle : 0 ≤ rest % 1461 ∧ rest % 1461 < 1461 := by omega
    have cycles : 0 ≤ rest / 1461 ∧ rest / 1461 ≤ 24 := by omega
    generalize rest % 1461 = days at *
    by_cases leapDay : days = 1460
    · refine ⟨⟨number / 36524, rest / 1461, 3, 365, centuries, cycles, by decide, by decide, ?_⟩, ?_⟩
      · omega
      · simp only [DayOfEra.number]
        omega
    · refine ⟨⟨number / 36524, rest / 1461, days / 365, days % 365, centuries, cycles, ?_, ?_, ?_⟩,
        ?_⟩
      · omega
      · omega
      · omega
      · simp only [DayOfEra.number]
        omega

theorem yearOfEra_bounds (date : DayOfEra) : 0 ≤ date.yearOfEra ∧ date.yearOfEra < 400 := by
  have centuries := date.centuries
  have cycles := date.cycles
  have years := date.years
  rw [yearOfEra]
  omega

/-- Of the days that have passed in an era, those of its whole years are taken away. -/
theorem number_eq (date : DayOfEra) :
    date.number - (365 * date.yearOfEra + date.yearOfEra / 4 - date.yearOfEra / 100) = date.day := by
  have cycles := date.cycles
  have years := date.years
  have hundreds : date.yearOfEra / 100 = date.century := by
    rw [yearOfEra]
    omega
  have fours : date.yearOfEra / 4 = 25 * date.century + date.cycle := by
    rw [yearOfEra]
    omega
  rw [hundreds, fours, yearOfEra, number]
  omega

/-- The year is found from the number of the day. -/
theorem yearOfEra_eq (date : DayOfEra) :
    (date.number - date.number / 1460 + date.number / 36524 - date.number / 146096) / 365 =
      date.yearOfEra := by
  rcases date with ⟨century, cycle, year, day, centuries, cycles, years, days, leapDay⟩
  simp only [number, yearOfEra]
  generalize same : 36524 * century + 1461 * cycle + 365 * year + day = number
  have corrected : number / 36524 - number / 146096 = century := by
    by_cases final : number = 146096
    · subst final
      omega
    · have hundreds : number / 36524 = century := by omega
      have era : number / 146096 = 0 := by omega
      omega
  have ahead : 24 * century + cycle + 365 * year + day < 1460 ∨
      year = 3 ∧ 365 ≤ 24 * century + cycle + day := by
    omega
  rcases ahead with early | ⟨rfl, late⟩
  · have cyclesBefore : number / 1460 = 25 * century + cycle := by omega
    omega
  · have cyclesBefore : number / 1460 = 25 * century + cycle + 1 := by omega
    omega

end DayOfEra

/-- A day by its month, counted from March. -/
structure MarchDate where
  era : Int
  yearOfEra : Int
  month : Int
  day : Int
  years : 0 ≤ yearOfEra ∧ yearOfEra < 400
  months : 0 ≤ month ∧ month < 12
  days : 1 ≤ day

namespace MarchDate

def number (march : MarchDate) : Int :=
  march.era * daysPerEra + (365 * march.yearOfEra + march.yearOfEra / 4 - march.yearOfEra / 100) +
    ((153 * march.month + 2) / 5 + march.day - 1) + eraStart

/-- The same day in a year that begins in January. -/
def date (march : MarchDate) : Date :=
  let month := if march.month < 10 then march.month + 3 else march.month - 9
  let year := march.yearOfEra + march.era * 400
  ⟨if month ≤ 2 then year + 1 else year, month.toNat, march.day.toNat⟩

theorem month_bounds (march : MarchDate) : 1 ≤ march.date.month ∧ march.date.month ≤ 12 := by
  have months := march.months
  simp only [date]
  split <;> omega

theorem dayNumber_date (march : MarchDate) : march.date.dayNumber = march.number := by
  rcases march with ⟨era, yearOfEra, month, day, years, months, days⟩
  have eras : (yearOfEra + era * 400) / 400 = era := by omega
  have years : (yearOfEra + era * 400) % 400 = yearOfEra := by omega
  have written : (day.toNat : Int) = day := Int.toNat_of_nonneg (by omega)
  simp only [date, number, dayNumber]
  by_cases early : month < 10
  · have later : ¬month + 3 ≤ 2 := by omega
    have laterToo : ¬(month + 3).toNat ≤ 2 := by omega
    have same : ((month + 3).toNat : Int) - 3 = month := by omega
    simp only [if_pos early, if_neg later, if_neg laterToo, same, eras, years, written]
    omega
  · have late : month - 9 ≤ 2 := by omega
    have lateToo : (month - 9).toNat ≤ 2 := by omega
    have same : ((month - 9).toNat : Int) + 9 = month := by omega
    simp only [if_neg early, if_pos late, if_pos lateToo, same, Int.add_sub_cancel, eras, years,
      written]
    omega

end MarchDate

theorem exists_marchDate (number : Int) :
    ∃ march : MarchDate, ofDayNumber number = march.date ∧ march.number = number := by
  rcases DayOfEra.exists_of_number (Int.emod_nonneg (number - eraStart) (by decide))
    (Int.emod_lt_of_pos (number - eraStart) (by decide)) with ⟨day, found⟩
  have days := day.days
  have months : 0 ≤ (5 * day.day + 2) / 153 ∧ (5 * day.day + 2) / 153 < 12 := by omega
  refine ⟨⟨(number - eraStart) / daysPerEra, day.yearOfEra, (5 * day.day + 2) / 153,
    day.day - (153 * ((5 * day.day + 2) / 153) + 2) / 5 + 1, day.yearOfEra_bounds, months, ?_⟩,
    ?_, ?_⟩
  · omega
  · simp only [ofDayNumber, ← found, day.yearOfEra_eq, day.number_eq]
    rfl
  · have whole := Int.mul_ediv_add_emod (number - eraStart) daysPerEra
    have parts := day.number_eq
    simp only [MarchDate.number]
    rw [← found] at whole
    rw [Int.mul_comm] at whole
    omega

theorem ofDayNumber_month (number : Int) :
    1 ≤ (ofDayNumber number).month ∧ (ofDayNumber number).month ≤ 12 := by
  rcases exists_marchDate number with ⟨march, same, -⟩
  rw [same]
  exact march.month_bounds

theorem dayNumber_ofDayNumber (number : Int) : (ofDayNumber number).dayNumber = number := by
  rcases exists_marchDate number with ⟨march, same, numbered⟩
  rw [same, march.dayNumber_date, numbered]

end AuditReports.Date
