import Mathlib.Data.List.TakeWhile
import Mathlib.Data.Rat.Floor
import Mathlib.Tactic.Linarith
import AuditReports.Proofs.Clocks
import AuditReports.Proofs.Text.Trimming

/-!
# Timestamps that name an instant

A date and a time with an offset from universal time name an instant, and the same instant can be
written in many ways: by the clock of any offset, with a fraction of a second or without, with one
of three separators between date and time, and with large letters or small ones. `IsDateTime` is the
form of such a text and says what its parts amount to. What is shown for it is a minute of local
time, and nothing else about the text matters.

Instants are counted in seconds and fractions of seconds since the first of January 1970. A leap
second counts as the second before it, so that it stays in its minute. Offsets are whole minutes and
a fraction is less than a second, so what is left out never carries into the minute. From the text
of a minute its number can be found again, since the calendar has one date for each day, so different
minutes are shown differently.
-/

namespace AuditReports.Timestamp

/-! ## The form of a timestamp -/

/-- Digits of ASCII, so many of them, that amount to a number. -/
structure IsNumeral (count value : Nat) (run : List Char) : Prop where
  length : run.length = count
  decimal : ∀ digit ∈ run, digit.isDigit = true
  amounts : Nat.ofDigitChars 10 run 0 = value

instance (count value : Nat) (run : List Char) : Decidable (IsNumeral count value run) :=
  decidable_of_iff
    (run.length = count ∧ run.all (·.isDigit) = true ∧ Nat.ofDigitChars 10 run 0 = value)
    ⟨fun parts => ⟨parts.1, List.all_eq_true.mp parts.2.1, parts.2.2⟩,
      fun numeral => ⟨numeral.length, List.all_eq_true.mpr numeral.decimal, numeral.amounts⟩⟩

/-- A date, in the form `YYYY-MM-DD`. -/
inductive IsDate : Date → List Char → Prop where
  | mk {year month day : Nat} {years months days : List Char}
      (inYears : IsNumeral 4 year years) (inMonths : IsNumeral 2 month months)
      (inDays : IsNumeral 2 day days) (valid : Date.valid ⟨year, month, day⟩ = true) :
      IsDate ⟨year, month, day⟩ (years ++ '-' :: (months ++ '-' :: days))

/-- A time of day to the second, in the form `hh:mm:ss`. The second is 60 in a leap second. -/
inductive IsTime (hour minute second : Nat) : List Char → Prop where
  | mk {hours minutes seconds : List Char} (inHours : IsNumeral 2 hour hours)
      (inMinutes : IsNumeral 2 minute minutes) (inSeconds : IsNumeral 2 second seconds)
      (hourly : hour ≤ 23) (minutely : minute ≤ 59) (secondly : second ≤ 60) :
      IsTime hour minute second (hours ++ ':' :: (minutes ++ ':' :: seconds))

/-- A fraction of a second: nothing at all, or a point and any number of digits. -/
inductive IsFraction : ℚ → List Char → Prop where
  | none : IsFraction 0 []
  | some {run : List Char} (nonempty : run ≠ [])
      (decimal : ∀ digit ∈ run, digit.isDigit = true) :
      IsFraction (Nat.ofDigitChars 10 run 0 / 10 ^ run.length) ('.' :: run)

/-- A number of minutes, in the form `hh:mm`. -/
inductive IsDistance : Nat → List Char → Prop where
  | mk {hour minute : Nat} {hours minutes : List Char} (inHours : IsNumeral 2 hour hours)
      (inMinutes : IsNumeral 2 minute minutes) (hourly : hour ≤ 23) (minutely : minute ≤ 59) :
      IsDistance (60 * hour + minute) (hours ++ ':' :: minutes)

/-- An offset from universal time in minutes. That of a clock which is behind begins with a hyphen or
with the minus sign of mathematics. -/
inductive IsOffset : Int → List Char → Prop where
  | universal {mark : Char} (marked : mark ∈ ['Z', 'z']) : IsOffset 0 [mark]
  | ahead {distance : Nat} {characters : List Char} (isDistance : IsDistance distance characters) :
      IsOffset distance ('+' :: characters)
  | behind {mark : Char} (marked : mark ∈ ['-', '−']) {distance : Nat} {characters : List Char}
      (isDistance : IsDistance distance characters) : IsOffset (-distance) (mark :: characters)

/-- What a text with a date, a time and an offset says. -/
structure Moment where
  date : Date
  hour : Nat
  minute : Nat
  second : Nat
  fraction : ℚ
  offset : Int

/-- What is left when the seconds are left out. -/
def Moment.zoned (moment : Moment) : Zoned :=
  ⟨⟨moment.date, moment.hour, moment.minute⟩, moment.offset⟩

/-- A date and a time with an offset. -/
inductive IsDateTime (moment : Moment) : List Char → Prop where
  | mk {date time fraction offset : List Char} {separator : Char}
      (isDate : IsDate moment.date date) (separates : separator ∈ ['T', 't', ' '])
      (isTime : IsTime moment.hour moment.minute moment.second time)
      (isFraction : IsFraction moment.fraction fraction) (isOffset : IsOffset moment.offset offset) :
      IsDateTime moment (date ++ separator :: (time ++ (fraction ++ offset)))

/-! ## Reading -/

theorem exactly_eq_some_iff {count value : Nat} (positive : 0 < count)
    {characters rest : List Char} :
    exactly count characters = some (value, rest) ↔
      ∃ run, IsNumeral count value run ∧ characters = run ++ rest := by
  constructor
  · intro read
    have prefixed := List.takeWhile_prefix (l := characters.take count) (·.isDigit)
    simp only [exactly, digits] at read
    split at read
    · next full =>
        have long := beq_iff_eq.mp full
        have whole := prefixed.eq_of_length_le (by rw [long]; exact List.length_take_le _ _)
        split at read
        · cases read
        · injection read with read
          injection read with amount left
          rw [long] at left
          refine ⟨characters.take count, ⟨by rw [← whole, long], ?_, ?_⟩, ?_⟩
          · rw [← whole]
            intro digit listed
            simpa using List.mem_takeWhile_imp listed
          · rw [← amount, whole]
            rfl
          · rw [← left, List.take_append_drop]
    · cases read
  · rintro ⟨run, numeral, rfl⟩
    have front : (run ++ rest).take count = run := List.take_left' numeral.length
    have decimal : run.takeWhile (·.isDigit) = run :=
      List.takeWhile_eq_self_iff.mpr numeral.decimal
    have nonempty : run ≠ [] := List.ne_nil_of_length_pos (numeral.length ▸ positive)
    have left : (run ++ rest).drop count = rest := List.drop_left' numeral.length
    simp only [exactly, digits, front, decimal, numeral.length, beq_self_eq_true, if_true,
      List.isEmpty_iff, nonempty, if_false, left, ← numeral.amounts]
    rfl

theorem expect_eq_some_iff {expected : Char} {characters rest : List Char} :
    expect expected characters = some rest ↔ characters = expected :: rest := by
  cases characters with
  | nil => simp [expect]
  | cons character others => by_cases same : character = expected <;> simp [expect, same]

theorem separator_eq_some_iff {characters rest : List Char} :
    (expect 'T' characters <|> expect 't' characters <|> expect ' ' characters) = some rest ↔
      ∃ separator ∈ ['T', 't', ' '], characters = separator :: rest := by
  cases characters with
  | nil => simp [expect]
  | cons separator others =>
      by_cases capital : separator = 'T'
      · simp [expect, capital]
      · by_cases small : separator = 't'
        · simp [expect, small]
        · by_cases blank : separator = ' '
          · simp [expect, blank]
          · simp [expect, capital, small, blank]

section Steps

variable {β : Type} {characters : List Char} {result : β}

theorem exactly_bind_eq_some_iff {count : Nat} (positive : 0 < count)
    {next : Nat × List Char → Option β} :
    (exactly count characters >>= next) = some result ↔
      ∃ value run rest, IsNumeral count value run ∧ characters = run ++ rest ∧
        next (value, rest) = some result := by
  simp only [Option.bind_eq_bind, Option.bind_eq_some_iff, Prod.exists,
    exactly_eq_some_iff positive]
  constructor
  · rintro ⟨value, rest, ⟨run, numeral, parts⟩, left⟩
    exact ⟨value, run, rest, numeral, parts, left⟩
  · rintro ⟨value, run, rest, numeral, parts, left⟩
    exact ⟨value, rest, ⟨run, numeral, parts⟩, left⟩

theorem expect_bind_eq_some_iff {expected : Char} {next : List Char → Option β} :
    (expect expected characters >>= next) = some result ↔
      ∃ rest, characters = expected :: rest ∧ next rest = some result := by
  simp only [Option.bind_eq_bind, Option.bind_eq_some_iff, expect_eq_some_iff]

end Steps

/-- A fraction is read as far as it goes. -/
theorem fraction_append {value : ℚ} {run rest : List Char} (isFraction : IsFraction value run)
    (ends : ∀ character ∈ rest.head?, character ≠ '.' ∧ character.isDigit = false) :
    fraction (run ++ rest) = some rest := by
  cases isFraction with
  | none =>
      rw [List.nil_append]
      unfold fraction
      split
      · exact absurd rfl (ends '.' rfl).1
      · rfl
  | @some run nonempty decimal =>
      rcases List.exists_cons_of_ne_nil nonempty with ⟨digit, others, rfl⟩
      have left : (digit :: others ++ rest).dropWhile (·.isDigit) = rest :=
        Text.dropWhile_isDigit decimal fun next begins => (ends next begins).2
      have isDigit := decimal digit List.mem_cons_self
      rw [List.cons_append] at left
      simp only [List.cons_append, fraction, isDigit, if_true, left]

theorem exists_of_fraction {characters rest : List Char} (read : fraction characters = some rest) :
    ∃ value run, IsFraction value run ∧ characters = run ++ rest := by
  unfold fraction at read
  split at read
  · split at read
    · cases read
    · next digit others =>
        split at read
        · next isDigit =>
            injection read with left
            refine ⟨_, '.' :: (digit :: others).takeWhile (·.isDigit), .some ?_ ?_, ?_⟩
            · simp [isDigit]
            · exact fun _ listed => by simpa using List.mem_takeWhile_imp listed
            · rw [← left, List.cons_append, List.takeWhile_append_dropWhile]
        · cases read
  · injection read with left
    exact ⟨0, [], .none, left⟩

theorem isDistance_iff {characters : List Char} {distance : Nat} :
    IsDistance distance characters ↔ ∃ hour behindHour behindColon minute,
      exactly 2 characters = some (hour, behindHour) ∧
        expect ':' behindHour = some behindColon ∧ exactly 2 behindColon = some (minute, []) ∧
        hour ≤ 23 ∧ minute ≤ 59 ∧ distance = 60 * hour + minute := by
  simp only [exactly_eq_some_iff Nat.two_pos, expect_eq_some_iff, List.append_nil]
  constructor
  · rintro ⟨inHours, inMinutes, hourly, minutely⟩
    exact ⟨_, _, _, _, ⟨_, inHours, rfl⟩, rfl, ⟨_, inMinutes, rfl⟩, hourly, minutely, rfl⟩
  · rintro ⟨hour, _, _, minute, ⟨hours, inHours, rfl⟩, rfl, ⟨minutes, inMinutes, rfl⟩, hourly,
      minutely, rfl⟩
    exact .mk inHours inMinutes hourly minutely

theorem offset?_eq_some_iff {characters : List Char} {offset : Int} :
    offset? characters = some offset ↔ IsOffset offset characters := by
  constructor
  · intro read
    cases characters with
    | nil => cases read
    | cons mark rest =>
        simp only [offset?] at read
        split at read
        · next universal =>
            split at read
            · next ends =>
                cases read
                rw [List.isEmpty_iff.mp ends]
                exact .universal (by simpa using universal)
            · cases read
        · simp only [Option.bind_eq_bind, Option.bind_eq_some_iff, Prod.exists] at read
          rcases read with ⟨sign, signed, hour, behindHour, hours, behindColon, colon, minute, left,
            minutes, whole⟩
          split at whole
          · next fits =>
              simp only [Bool.and_eq_true, List.isEmpty_iff, decide_eq_true_eq] at fits
              rcases fits with ⟨⟨rfl, hourly⟩, minutely⟩
              have isDistance : IsDistance (60 * hour + minute) rest := isDistance_iff.mpr
                ⟨hour, behindHour, behindColon, minute, hours, colon, minutes, hourly, minutely, rfl⟩
              injection whole with whole
              split at signed
              · next plus =>
                  cases signed
                  rw [← whole, eq_of_beq plus, Int.one_mul]
                  exact .ahead isDistance
              · split at signed
                · next minus =>
                    cases signed
                    rw [← whole, Int.neg_mul, Int.one_mul]
                    exact .behind (by simpa using minus) isDistance
                · cases signed
          · cases whole
  · intro isOffset
    cases isOffset with
    | universal marked =>
        simp only [List.mem_cons, List.not_mem_nil, or_false] at marked
        rcases marked with rfl | rfl <;> rfl
    | ahead isDistance =>
        rcases isDistance_iff.mp isDistance with
          ⟨hour, _, _, minute, hours, colon, minutes, hourly, minutely, rfl⟩
        simp [offset?, hours, colon, minutes, hourly, minutely]
    | behind marked isDistance =>
        rcases isDistance_iff.mp isDistance with
          ⟨hour, _, _, minute, hours, colon, minutes, hourly, minutely, rfl⟩
        simp only [List.mem_cons, List.not_mem_nil, or_false] at marked
        rcases marked with rfl | rfl <;>
          simp [offset?, hours, colon, minutes, hourly, minutely]

/-- No offset goes on with what a fraction begins with or consists of. -/
theorem head?_of_isOffset {offset : Int} {characters : List Char}
    (isOffset : IsOffset offset characters) :
    ∀ character ∈ characters.head?, character ≠ '.' ∧ character.isDigit = false := by
  rintro character begins
  cases isOffset with
  | universal marked =>
      cases begins
      simp only [List.mem_cons, List.not_mem_nil, or_false] at marked
      rcases marked with rfl | rfl <;> decide
  | ahead _ =>
      cases begins
      decide
  | behind marked _ =>
      cases begins
      simp only [List.mem_cons, List.not_mem_nil, or_false] at marked
      rcases marked with rfl | rfl <;> decide

theorem exists_of_zoned? {characters : List Char} {zoned : Zoned}
    (read : zoned? characters = some zoned) :
    ∃ moment, IsDateTime moment characters ∧ moment.zoned = zoned := by
  have four : 0 < 4 := by decide
  have two : 0 < 2 := by decide
  -- Each reader leaves to the next one what it has not read.
  rcases (exactly_bind_eq_some_iff four).mp read with ⟨year, years, _, inYears, _, read⟩
  rcases expect_bind_eq_some_iff.mp read with ⟨_, _, read⟩
  rcases (exactly_bind_eq_some_iff two).mp read with ⟨month, months, _, inMonths, _, read⟩
  rcases expect_bind_eq_some_iff.mp read with ⟨_, _, read⟩
  rcases (exactly_bind_eq_some_iff two).mp read with ⟨day, days, _, inDays, _, read⟩
  rcases Option.bind_eq_some_iff.mp read with ⟨_, between, read⟩
  rcases separator_eq_some_iff.mp between with ⟨separator, separates, _⟩
  rcases (exactly_bind_eq_some_iff two).mp read with ⟨hour, hours, _, inHours, _, read⟩
  rcases expect_bind_eq_some_iff.mp read with ⟨_, _, read⟩
  rcases (exactly_bind_eq_some_iff two).mp read with ⟨minute, minutes, _, inMinutes, _, read⟩
  rcases expect_bind_eq_some_iff.mp read with ⟨_, _, read⟩
  rcases (exactly_bind_eq_some_iff two).mp read with ⟨second, seconds, _, inSeconds, _, read⟩
  rcases Option.bind_eq_some_iff.mp read with ⟨zone, fractional, read⟩
  rcases exists_of_fraction fractional with ⟨fraction, run, isFraction, _⟩
  rcases Option.bind_eq_some_iff.mp read with ⟨offset, shifted, read⟩
  dsimp only at read
  split at read
  · next fits =>
      cases read
      simp only [validTime, Bool.and_eq_true, decide_eq_true_eq] at fits
      rcases fits with ⟨valid, ⟨hourly, minutely⟩, secondly⟩
      have isDateTime : IsDateTime ⟨⟨year, month, day⟩, hour, minute, second, fraction, offset⟩
          ((years ++ '-' :: (months ++ '-' :: days)) ++ separator ::
            ((hours ++ ':' :: (minutes ++ ':' :: seconds)) ++ (run ++ zone))) :=
        .mk (.mk inYears inMonths inDays valid) separates
          (.mk inHours inMinutes inSeconds hourly minutely secondly) isFraction
          (offset?_eq_some_iff.mp shifted)
      refine ⟨⟨⟨year, month, day⟩, hour, minute, second, fraction, offset⟩, ?_, rfl⟩
      subst_vars
      simpa using isDateTime
  · cases read

theorem zoned?_of_isDateTime {moment : Moment} {characters : List Char}
    (isDateTime : IsDateTime moment characters) : zoned? characters = some moment.zoned := by
  have four : 0 < 4 := by decide
  have two : 0 < 2 := by decide
  rcases moment with ⟨_, hour, minute, second, fraction, offset⟩
  rcases isDateTime with ⟨⟨inYears, inMonths, inDays, valid⟩, separates,
    ⟨inHours, inMinutes, inSeconds, hourly, minutely, secondly⟩, isFraction, isOffset⟩
  simp only [List.append_assoc, List.cons_append]
  refine (exactly_bind_eq_some_iff four).mpr ⟨_, _, _, inYears, rfl, ?_⟩
  refine expect_bind_eq_some_iff.mpr ⟨_, rfl, ?_⟩
  refine (exactly_bind_eq_some_iff two).mpr ⟨_, _, _, inMonths, rfl, ?_⟩
  refine expect_bind_eq_some_iff.mpr ⟨_, rfl, ?_⟩
  refine (exactly_bind_eq_some_iff two).mpr ⟨_, _, _, inDays, rfl, ?_⟩
  refine Option.bind_eq_some_iff.mpr ⟨_, separator_eq_some_iff.mpr ⟨_, separates, rfl⟩, ?_⟩
  refine (exactly_bind_eq_some_iff two).mpr ⟨_, _, _, inHours, rfl, ?_⟩
  refine expect_bind_eq_some_iff.mpr ⟨_, rfl, ?_⟩
  refine (exactly_bind_eq_some_iff two).mpr ⟨_, _, _, inMinutes, rfl, ?_⟩
  refine expect_bind_eq_some_iff.mpr ⟨_, rfl, ?_⟩
  refine (exactly_bind_eq_some_iff two).mpr ⟨_, _, _, inSeconds, rfl, ?_⟩
  refine Option.bind_eq_some_iff.mpr
    ⟨_, fraction_append isFraction (head?_of_isOffset isOffset), ?_⟩
  refine Option.bind_eq_some_iff.mpr ⟨_, offset?_eq_some_iff.mpr isOffset, ?_⟩
  exact if_pos (by simp [validTime, *])

/-- Exactly the texts of this form are read, and their parts with them. -/
theorem zoned?_eq_some_iff {characters : List Char} {zoned : Zoned} :
    zoned? characters = some zoned ↔
      ∃ moment, IsDateTime moment characters ∧ moment.zoned = zoned := by
  constructor
  · exact exists_of_zoned?
  · rintro ⟨moment, isDateTime, rfl⟩
    exact zoned?_of_isDateTime isDateTime

/-! ## The minute of an instant -/

namespace Moment

/-- The seconds from the beginning of 1970 to an instant, in universal time. -/
def instant (moment : Moment) : ℚ :=
  86400 * moment.date.daysSince1970 + 3600 * moment.hour + 60 * moment.minute +
    (min moment.second 59 : Nat) + moment.fraction - 60 * moment.offset

/-- The minutes from the beginning of 1970 to an instant, on clocks that are five hours behind. -/
def localMinute (moment : Moment) : Int :=
  ⌊(moment.instant - 5 * 3600) / 60⌋

end Moment

/-- Each digit has one of ten values. -/
theorem ofDigitChars_lt {digits : List Char} (decimal : ∀ digit ∈ digits, digit.isDigit = true)
    (start : Nat) : Nat.ofDigitChars 10 digits start < (start + 1) * 10 ^ digits.length := by
  induction digits generalizing start with
  | nil => simp
  | cons digit digits ih =>
      rcases List.forall_mem_cons.mp decimal with ⟨first, others⟩
      have value : digit.toNat - '0'.toNat ≤ 9 := by
        have bounds : '0'.toNat ≤ digit.toNat ∧ digit.toNat ≤ '9'.toNat := by
          simpa [Char.isDigit, UInt32.le_iff_toNat_le] using first
        exact Nat.sub_le_sub_right bounds.2 _
      rw [Nat.ofDigitChars_cons, List.length_cons, Nat.pow_succ', ← Nat.mul_assoc]
      exact Nat.lt_of_lt_of_le (ih others _) (Nat.mul_le_mul_right _ (by omega))

theorem fraction_bounds {value : ℚ} {run : List Char} (isFraction : IsFraction value run) :
    0 ≤ value ∧ value < 1 := by
  cases isFraction with
  | none => norm_num
  | @some run nonempty decimal =>
      have positive : (0 : ℚ) < 10 ^ run.length := by positivity
      have less : Nat.ofDigitChars 10 run 0 < 10 ^ run.length := by
        simpa using ofDigitChars_lt decimal 0
      have less : (Nat.ofDigitChars 10 run 0 : ℚ) < 10 ^ run.length := by exact_mod_cast less
      constructor
      · positivity
      · rwa [div_lt_one positive]

theorem IsDate.valid {date : Date} {characters : List Char} (isDate : IsDate date characters) :
    date.valid = true := by
  cases isDate with
  | mk _ _ _ valid => exact valid

/-- Neither the seconds nor the shift to local time carry into the minute. -/
theorem onLocalClock_eq {moment : Moment} {characters : List Char}
    (isDateTime : IsDateTime moment characters) :
    moment.zoned.onLocalClock = ClockMinute.ofNumber moment.localMinute := by
  rcases isDateTime with ⟨isDate, -, -, isFraction, -⟩
  have days := Date.dayNumber_eq isDate.valid
  rw [Zoned.onLocalClock]
  congr 1
  rw [Moment.localMinute, eq_comm, Int.floor_eq_iff]
  rcases fraction_bounds isFraction with ⟨atLeast, less⟩
  have seconds : ((min moment.second 59 : Nat) : ℚ) ≤ 59 := by
    exact_mod_cast Nat.min_le_right _ _
  have positive : (0 : ℚ) ≤ (min moment.second 59 : Nat) := Nat.cast_nonneg _
  simp only [Moment.zoned, Zoned.instant, ClockMinute.number, localOffset, days, Moment.instant]
  generalize min moment.second 59 = second at *
  push_cast
  constructor <;> linarith

theorem text_of_isDateTime {value : String} {moment : Moment}
    (isDateTime : IsDateTime moment (Text.trim value).toList) :
    text (some value) = (ClockMinute.ofNumber moment.localMinute).text := by
  have read := zoned?_of_isDateTime isDateTime
  have nonempty : Text.trim value ≠ "" := by
    intro empty
    rw [empty] at read
    cases read
  have content : Text.content? value = some (Text.trim value) :=
    Text.content?_eq_some_iff.mpr ⟨rfl, nonempty⟩
  simp only [text, Option.bind_some, content, shown, read, onLocalClock_eq isDateTime]

/-- What is shown for two timestamps that name instants is the same if and only if these fall into
the same minute of local time. So it does not matter in which way an instant is written. -/
theorem shown_alike_iff_same_minute {first second : String} {one other : Moment}
    (isDateTime : IsDateTime one (Text.trim first).toList)
    (isDateTimeToo : IsDateTime other (Text.trim second).toList) :
    (text (some first) = text (some second) ↔ one.localMinute = other.localMinute) ∧
      (one.instant = other.instant → text (some first) = text (some second)) := by
  rw [text_of_isDateTime isDateTime, text_of_isDateTime isDateTimeToo]
  have minutes : (ClockMinute.ofNumber one.localMinute).text =
      (ClockMinute.ofNumber other.localMinute).text ↔ one.localMinute = other.localMinute := by
    constructor
    · exact ClockMinute.text_ofNumber_inj
    · exact congrArg fun number => (ClockMinute.ofNumber number).text
  refine ⟨minutes, fun same => minutes.mpr ?_⟩
  rw [Moment.localMinute, Moment.localMinute, same]

/-- The evening of a leap day, by two clocks of which one has passed midnight. -/
theorem leap_day_shown_alike_by_two_clocks :
    (⟨⟨2024, 2, 29⟩, 23, 30, 7, 5 / 10, -300⟩ : Moment).instant =
        (⟨⟨2024, 3, 1⟩, 5, 15, 7, 50 / 100, 45⟩ : Moment).instant ∧
      text (some " 2024-02-29T23:30:07.5-05:00") = text (some "2024-03-01 05:15:07.50+00:45") ∧
      text (some " 2024-02-29T23:30:07.5-05:00") = "Feb 29, 2024 23:30" ∧
      (⟨⟨2024, 2, 29⟩, 23, 30, 7, 5 / 10, -300⟩ : Moment).localMinute =
        (⟨⟨2024, 3, 1⟩, 5, 15, 7, 50 / 100, 45⟩ : Moment).localMinute := by
  have evening : IsDateTime ⟨⟨2024, 2, 29⟩, 23, 30, 7, 5 / 10, -300⟩
      (Text.trim " 2024-02-29T23:30:07.5-05:00").toList := by
    have trimmed : (Text.trim " 2024-02-29T23:30:07.5-05:00").toList =
        "2024-02-29T23:30:07.5-05:00".toList := by decide +kernel
    have date := @IsDate.mk 2024 2 29 ['2', '0', '2', '4'] ['0', '2'] ['2', '9'] (by decide)
      (by decide) (by decide) (by decide)
    have time := @IsTime.mk 23 30 7 ['2', '3'] ['3', '0'] ['0', '7'] (by decide) (by decide)
      (by decide) (by decide) (by decide) (by decide)
    have distance := @IsDistance.mk 5 0 ['0', '5'] ['0', '0'] (by decide) (by decide) (by decide)
      (by decide)
    rw [trimmed]
    exact @IsDateTime.mk ⟨⟨2024, 2, 29⟩, 23, 30, 7, 5 / 10, -300⟩ _ _ _ _ 'T' date (by decide) time
      (@IsFraction.some ['5'] (by decide) (by simp))
      (@IsOffset.behind '-' (by decide) _ _ distance)
  have night : IsDateTime ⟨⟨2024, 3, 1⟩, 5, 15, 7, 50 / 100, 45⟩
      (Text.trim "2024-03-01 05:15:07.50+00:45").toList := by
    have trimmed : (Text.trim "2024-03-01 05:15:07.50+00:45").toList =
        "2024-03-01 05:15:07.50+00:45".toList := by decide +kernel
    have date := @IsDate.mk 2024 3 1 ['2', '0', '2', '4'] ['0', '3'] ['0', '1'] (by decide)
      (by decide) (by decide) (by decide)
    have time := @IsTime.mk 5 15 7 ['0', '5'] ['1', '5'] ['0', '7'] (by decide) (by decide)
      (by decide) (by decide) (by decide) (by decide)
    have distance := @IsDistance.mk 0 45 ['0', '0'] ['4', '5'] (by decide) (by decide) (by decide)
      (by decide)
    rw [trimmed]
    exact @IsDateTime.mk ⟨⟨2024, 3, 1⟩, 5, 15, 7, 50 / 100, 45⟩ _ _ _ _ ' ' date (by decide) time
      (@IsFraction.some ['5', '0'] (by decide) (by simp)) (.ahead distance)
  rcases shown_alike_iff_same_minute evening night with ⟨minutes, instants⟩
  have same : (⟨⟨2024, 2, 29⟩, 23, 30, 7, 5 / 10, -300⟩ : Moment).instant =
      (⟨⟨2024, 3, 1⟩, 5, 15, 7, 50 / 100, 45⟩ : Moment).instant := by decide +kernel
  exact ⟨same, instants same, by decide +kernel, minutes.mp (instants same)⟩

end AuditReports.Timestamp
