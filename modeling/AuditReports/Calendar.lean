/-!
# The calendar

Dates of the Gregorian calendar, carried on without a break before its introduction and before the
year one. Days are numbered from the first of January 1970. Numbering counts from the first of March
of a year divisible by four hundred, so that the leap day is the last day of its year and every four
centuries have the same number of days.
-/

namespace AuditReports

structure Date where
  year : Int
  month : Nat
  day : Nat
  deriving DecidableEq, Repr

namespace Date

def isLeapYear (year : Int) : Bool :=
  year % 4 == 0 && (year % 100 != 0 || year % 400 == 0)

def daysInMonth (year : Int) (month : Nat) : Nat :=
  if month == 2 then if isLeapYear year then 29 else 28
  else if month == 4 || month == 6 || month == 9 || month == 11 then 30
  else 31

def valid (date : Date) : Bool :=
  1 ≤ date.month && date.month ≤ 12 && 1 ≤ date.day &&
    date.day ≤ daysInMonth date.year date.month

def daysPerEra : Int := 146097

/-- The day number of the first of March of the year zero. -/
def eraStart : Int := -719468

/-- The number of a day, counted from the first of January 1970. -/
def dayNumber (date : Date) : Int :=
  let year := if date.month ≤ 2 then date.year - 1 else date.year
  let yearOfEra := year % 400
  let monthOfYear : Int := if date.month ≤ 2 then date.month + 9 else date.month - 3
  let dayOfYear : Int := (153 * monthOfYear + 2) / 5 + date.day - 1
  let dayOfEra := yearOfEra * 365 + yearOfEra / 4 - yearOfEra / 100 + dayOfYear
  year / 400 * daysPerEra + dayOfEra + eraStart

def ofDayNumber (number : Int) : Date :=
  let shifted := number - eraStart
  let dayOfEra := shifted % daysPerEra
  let yearOfEra :=
    (dayOfEra - dayOfEra / 1460 + dayOfEra / 36524 - dayOfEra / 146096) / 365
  let dayOfYear := dayOfEra - (365 * yearOfEra + yearOfEra / 4 - yearOfEra / 100)
  let monthOfYear := (5 * dayOfYear + 2) / 153
  let day := dayOfYear - (153 * monthOfYear + 2) / 5 + 1
  let month := if monthOfYear < 10 then monthOfYear + 3 else monthOfYear - 9
  let year := yearOfEra + shifted / daysPerEra * 400
  ⟨if month ≤ 2 then year + 1 else year, month.toNat, day.toNat⟩

def monthName : Nat → String
  | 1 => "Jan"
  | 2 => "Feb"
  | 3 => "Mar"
  | 4 => "Apr"
  | 5 => "May"
  | 6 => "Jun"
  | 7 => "Jul"
  | 8 => "Aug"
  | 9 => "Sep"
  | 10 => "Oct"
  | 11 => "Nov"
  | _ => "Dec"

end Date

end AuditReports
