import AuditReports.Calendar
import AuditReports.Text.Blank

/-!
# Timestamps

Timestamps are shown to the minute in local time, five hours behind universal time all the year
round. A text with an offset from universal time, in the form of RFC 3339, names an instant and is
moved to local time. A text without one, a date and a time of day in a form that is read leniently,
is taken to be local time already. Any other text is shown as it stands. A second of 60 is a leap
second and belongs to its own minute; offsets are whole minutes, so seconds never carry.
-/

namespace AuditReports

/-- A minute of some wall clock. -/
structure ClockMinute where
  date : Date
  hour : Nat
  minute : Nat
  deriving DecidableEq, Repr

namespace ClockMinute

/-- Minutes since the wall clock showed the first of January 1970. -/
def number (clock : ClockMinute) : Int :=
  clock.date.dayNumber * 1440 + clock.hour * 60 + clock.minute

def ofNumber (number : Int) : ClockMinute :=
  let minuteOfDay := (number % 1440).toNat
  ⟨Date.ofDayNumber (number / 1440), minuteOfDay / 60, minuteOfDay % 60⟩

/-- A number in at least `width` digits. -/
def padded (width value : Nat) : String :=
  let digits := toString value
  "".pushn '0' (width - digits.length) ++ digits

/-- Years from 0 to 9999 have four digits, all others a sign and at least four. -/
def yearText (year : Int) : String :=
  if year < 0 then "-" ++ padded 4 year.natAbs
  else if 9999 < year then "+" ++ padded 4 year.natAbs
  else padded 4 year.natAbs

def text (clock : ClockMinute) : String :=
  s!"{Date.monthName clock.date.month} {clock.date.day}, {yearText clock.date.year} " ++
    s!"{padded 2 clock.hour}:{padded 2 clock.minute}"

end ClockMinute

namespace Timestamp

/-- The distance of local time from universal time, in minutes. -/
def localOffset : Int := -300

/-- Reads at most `most` digits, at least one; the value and the rest. -/
def digits (most : Nat) (characters : List Char) : Option (Nat × List Char) :=
  let run := (characters.take most).takeWhile (·.isDigit)
  if run.isEmpty then none
  else
    some (run.foldl (fun value digit => 10 * value + (digit.toNat - '0'.toNat)) 0,
      characters.drop run.length)

def exactly (count : Nat) (characters : List Char) : Option (Nat × List Char) :=
  if ((characters.take count).takeWhile (·.isDigit)).length == count then
    digits count characters
  else none

def expect (expected : Char) : List Char → Option (List Char)
  | [] => none
  | character :: rest => if character == expected then some rest else none

/-- A time of day can be shown; the second is 60 in a leap second. -/
def validTime (hour minute second : Nat) : Bool :=
  hour ≤ 23 && minute ≤ 59 && second ≤ 60

/-! ## Instants -/

/-- A minute of a wall clock that is `offset` minutes ahead of universal time. -/
structure Zoned where
  clock : ClockMinute
  offset : Int
  deriving DecidableEq, Repr

/-- The minute of universal time, numbered from the first of January 1970. -/
def Zoned.instant (zoned : Zoned) : Int :=
  zoned.clock.number - zoned.offset

/-- The same minute on the local wall clock. -/
def Zoned.onLocalClock (zoned : Zoned) : ClockMinute :=
  ClockMinute.ofNumber (zoned.instant + localOffset)

/-- Passes over a point and the digits of a fraction, if there is a point. -/
def fraction : List Char → Option (List Char)
  | '.' :: rest =>
      match rest with
      | [] => none
      | digit :: _ => if digit.isDigit then some (rest.dropWhile (·.isDigit)) else none
  | rest => some rest

/-- The offset that ends a text: `Z`, or a sign, hours and minutes. -/
def offset? : List Char → Option Int
  | [] => none
  | mark :: rest =>
      if mark == 'Z' || mark == 'z' then if rest.isEmpty then some 0 else none
      else
        let sign? : Option Int :=
          if mark == '+' then some 1
          else if mark == '-' || mark == '−' then some (-1)
          else none
        do
          let sign ← sign?
          let (hours, rest) ← exactly 2 rest
          let rest ← expect ':' rest
          let (minutes, rest) ← exactly 2 rest
          if rest.isEmpty && hours ≤ 23 && minutes ≤ 59 then
            some (sign * (60 * hours + minutes : Nat))
          else none

/-- Reads a date and a time with an offset, in the form of RFC 3339. -/
def zoned? (characters : List Char) : Option Zoned := do
  let (year, rest) ← exactly 4 characters
  let rest ← expect '-' rest
  let (month, rest) ← exactly 2 rest
  let rest ← expect '-' rest
  let (day, rest) ← exactly 2 rest
  let rest ← expect 'T' rest <|> expect 't' rest <|> expect ' ' rest
  let (hour, rest) ← exactly 2 rest
  let rest ← expect ':' rest
  let (minute, rest) ← exactly 2 rest
  let rest ← expect ':' rest
  let (second, rest) ← exactly 2 rest
  let rest ← fraction rest
  let offset ← offset? rest
  let date : Date := ⟨year, month, day⟩
  if date.valid && validTime hour minute second then some ⟨⟨date, hour, minute⟩, offset⟩ else none

/-! ## Local times -/

/-- The years that can be shown. -/
def validYear (year : Int) : Bool :=
  -262143 ≤ year && year ≤ 262142

/-- Passes over white space before a number of at most `most` digits. -/
def spaced (most : Nat) (characters : List Char) : Option (Nat × List Char) :=
  digits most (characters.dropWhile Text.isBlank)

/-- A year has at most four digits, unless a sign stands in front. -/
def year? (characters : List Char) : Option (Int × List Char) :=
  match characters.dropWhile Text.isBlank with
  | '-' :: rest => (digits rest.length rest).map fun (value, rest) => (-(value : Int), rest)
  | '+' :: rest => (digits rest.length rest).map fun (value, rest) => ((value : Int), rest)
  | rest => (digits 4 rest).map fun (value, rest) => ((value : Int), rest)

/-- Reads a date and a time without an offset. -/
def local? (characters : List Char) : Option ClockMinute := do
  let (year, rest) ← year? characters
  let rest ← expect '-' rest
  let (month, rest) ← spaced 2 rest
  let rest ← expect '-' rest
  let (day, rest) ← spaced 2 rest
  let (hour, rest) ← spaced 2 rest
  let rest ← expect ':' rest
  let (minute, rest) ← spaced 2 rest
  let rest ← expect ':' rest
  let (second, rest) ← spaced 2 rest
  let date : Date := ⟨year, month, day⟩
  if rest.isEmpty && validYear year && date.valid && validTime hour minute second then
    some ⟨date, hour, minute⟩
  else none

/-- What is shown for a text with something in it. -/
def shown (trimmed : String) : String :=
  match zoned? trimmed.toList with
  | some zoned => zoned.onLocalClock.text
  | none =>
      match local? trimmed.toList with
      | some clock => clock.text
      | none => trimmed

/-- A timestamp for an operator to read, a dash where there is none. -/
def text (value : Option String) : String :=
  match value.bind Text.content? with
  | none => "-"
  | some trimmed => shown trimmed

end Timestamp

end AuditReports
