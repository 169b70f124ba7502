import AuditReports.Proofs.Calendar
import AuditReports.Proofs.Text.Forms
import AuditReports.Proofs.Text.Integers
import AuditReports.Timestamp

/-!
# Clocks and what they show

The minutes of a wall clock are numbered, and what is shown for a minute has a place for everything
there is to it: the month by its name, the day, the year, the hour and the minute. Each part ends
before a character that it does not contain, so the parts can be told from the text. A number is
read from its digits whatever zeros stand in front, and the sign of a year is not a digit. So no two
minutes are shown alike.
-/

namespace AuditReports

namespace ClockMinute

theorem number_ofNumber (number : Int) : (ofNumber number).number = number := by
  simp only [ofNumber, ClockMinute.number, Date.dayNumber_ofDayNumber]
  omega

/-! ## Numbers that are filled up -/

theorem toList_pushn (text : String) (filler : Char) (count : Nat) :
    (text.pushn filler count).toList = text.toList ++ List.replicate count filler := by
  induction count with
  | zero => simp [String.pushn, Nat.repeat]
  | succ count ih =>
      have one : text.pushn filler (count + 1) = (text.pushn filler count).push filler := rfl
      rw [one, String.toList_push, ih, List.replicate_succ', List.append_assoc]

theorem toList_padded (width value : Nat) : (padded width value).toList =
    List.replicate (width - (Nat.toDigits 10 value).length) '0' ++ Nat.toDigits 10 value := by
  have digits : (toString value).toList = Nat.toDigits 10 value := Nat.toList_repr
  rw [padded, String.toList_append, toList_pushn, digits, ← String.length_toList, digits]
  rfl

theorem isDigit_padded (width value : Nat) :
    ∀ digit ∈ (padded width value).toList, digit.isDigit = true := by
  intro digit listed
  rw [toList_padded, List.mem_append] at listed
  rcases listed with zero | other
  · rw [List.eq_of_mem_replicate zero]
    rfl
  · exact Text.isDigit_toDigits value digit other

/-- Zeros in front do not count. -/
theorem ofDigitChars_padded (width value : Nat) :
    Nat.ofDigitChars 10 (padded width value).toList 0 = value := by
  have zeros : ∀ count, Nat.ofDigitChars 10 (List.replicate count '0') 0 = 0 := by
    intro count
    induction count with
    | zero => rfl
    | succ count ih => simp [List.replicate_succ, Nat.ofDigitChars_cons, ih]
  rw [toList_padded, Nat.ofDigitChars_append, zeros, Nat.ofDigitChars_ten_toDigits]

/-- A year is written with a sign or without one. -/
theorem exists_sign (year : Int) : ∃ sign,
    (yearText year).toList = sign ++ (padded 4 year.natAbs).toList ∧
      (sign = ['-'] ∧ year < 0 ∨ (sign = ['+'] ∨ sign = []) ∧ 0 ≤ year) := by
  unfold yearText
  split
  · next negative => exact ⟨['-'], by simp, .inl ⟨rfl, negative⟩⟩
  · split
    · exact ⟨['+'], by simp, .inr ⟨.inl rfl, by omega⟩⟩
    · exact ⟨[], by simp, .inr ⟨.inr rfl, by omega⟩⟩

/-- The year that is written. -/
def readYear : List Char → Int
  | '-' :: digits => -(Nat.ofDigitChars 10 digits 0)
  | '+' :: digits => Nat.ofDigitChars 10 digits 0
  | digits => Nat.ofDigitChars 10 digits 0

theorem readYear_of_digits {digits : List Char}
    (decimal : ∀ digit ∈ digits, digit.isDigit = true) :
    readYear digits = Nat.ofDigitChars 10 digits 0 := by
  unfold readYear
  split
  · cases decimal '-' List.mem_cons_self
  · cases decimal '+' List.mem_cons_self
  · rfl

theorem readYear_yearText (year : Int) : readYear (yearText year).toList = year := by
  have amount := ofDigitChars_padded 4 year.natAbs
  rcases exists_sign year with ⟨sign, spelled, ⟨rfl, negative⟩ | ⟨rfl | rfl, positive⟩⟩
  · rw [spelled, List.singleton_append, readYear, amount]
    omega
  · rw [spelled, List.singleton_append, readYear, amount]
    omega
  · rw [spelled, List.nil_append, readYear_of_digits (isDigit_padded 4 _), amount]
    omega

theorem space_not_mem_yearText (year : Int) : ' ' ∉ (yearText year).toList := by
  have digits : ' ' ∉ (padded 4 year.natAbs).toList := by
    intro listed
    cases isDigit_padded 4 _ ' ' listed
  rcases exists_sign year with ⟨sign, spelled, ⟨rfl, -⟩ | ⟨rfl | rfl, -⟩⟩ <;>
    simp [spelled, digits]

/-! ## The parts of a text -/

theorem toList_text (clock : ClockMinute) : clock.text.toList =
    (Date.monthName clock.date.month).toList ++ ' ' ::
      (Nat.toDigits 10 clock.date.day ++ ',' ::
        (' ' :: (yearText clock.date.year).toList ++ ' ' ::
          ((padded 2 clock.hour).toList ++ ':' :: (padded 2 clock.minute).toList))) := by
  simp [text, toString]

/-- What stands before a character and what stands behind it can be told from a text, if the
character does not occur before. -/
theorem parts_of_eq {mark : Char} {first second rest others : List Char} (absent : mark ∉ first)
    (absentToo : mark ∉ second) (same : first ++ mark :: rest = second ++ mark :: others) :
    first = second ∧ rest = others := by
  have cut := congrArg (Text.cutFirst mark) same
  rw [Text.cutFirst_append_cons absent, Text.cutFirst_append_cons absentToo] at cut
  simpa using cut

theorem monthName_inj {month other : Nat} (bounds : 1 ≤ month ∧ month ≤ 12)
    (boundsToo : 1 ≤ other ∧ other ≤ 12) (same : Date.monthName month = Date.monthName other) :
    month = other := by
  have all : ∀ month ≤ 12, ∀ other ≤ 12, 1 ≤ month → 1 ≤ other →
      Date.monthName month = Date.monthName other → month = other := by
    decide
  exact all month bounds.2 other boundsToo.2 bounds.1 boundsToo.1 same

theorem space_not_mem_monthName (month : Nat) : ' ' ∉ (Date.monthName month).toList := by
  unfold Date.monthName
  split <;> decide

theorem padded_inj {width value other : Nat}
    (same : (padded width value).toList = (padded width other).toList) : value = other := by
  rw [← ofDigitChars_padded width value, same, ofDigitChars_padded]

/-- No two minutes are shown alike. -/
theorem text_inj {clock other : ClockMinute}
    (bounds : 1 ≤ clock.date.month ∧ clock.date.month ≤ 12)
    (boundsToo : 1 ≤ other.date.month ∧ other.date.month ≤ 12)
    (same : clock.text = other.text) : clock = other := by
  have texts := congrArg String.toList same
  rw [toList_text, toList_text] at texts
  rcases parts_of_eq (space_not_mem_monthName _) (space_not_mem_monthName _) texts with
    ⟨months, texts⟩
  have comma := Text.not_mem_toDigits ',' rfl
  rcases parts_of_eq (comma _) (comma _) texts with ⟨days, texts⟩
  rcases parts_of_eq (space_not_mem_yearText _) (space_not_mem_yearText _)
    (List.cons.inj texts).2 with ⟨years, texts⟩
  have colon : ∀ value, ':' ∉ (padded 2 value).toList := by
    intro value listed
    cases isDigit_padded 2 value ':' listed
  rcases parts_of_eq (colon _) (colon _) texts with ⟨hours, minutes⟩
  rcases clock with ⟨⟨year, month, day⟩, hour, minute⟩
  rcases other with ⟨⟨otherYear, otherMonth, otherDay⟩, otherHour, otherMinute⟩
  have sameMonth : month = otherMonth :=
    monthName_inj bounds boundsToo (String.toList_injective months)
  have sameDay : day = otherDay := by
    rw [← Nat.ofDigitChars_ten_toDigits (n := day), days, Nat.ofDigitChars_ten_toDigits]
  have sameYear : year = otherYear := by
    rw [← readYear_yearText year, years, readYear_yearText]
  have sameHour : hour = otherHour := padded_inj hours
  have sameMinute : minute = otherMinute := padded_inj minutes
  rw [sameMonth, sameDay, sameYear, sameHour, sameMinute]

/-- No two numbers of minutes are shown alike. -/
theorem text_ofNumber_inj {number other : Int}
    (same : (ofNumber number).text = (ofNumber other).text) : number = other := by
  have clocks := text_inj (Date.ofDayNumber_month _) (Date.ofDayNumber_month _) same
  rw [← number_ofNumber number, clocks, number_ofNumber]

end ClockMinute

end AuditReports
