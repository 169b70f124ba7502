import AuditReports.Text.Integer

/-!
# Whole numbers that are read

What is printed for a number are digits of ASCII, and a run of them ends where no digit follows.

Reading a number stops at the first digit that makes it too large. More digits never make a number
smaller, so what is read is a number within the limit, and every such number is read, whatever the
zeros and the plus sign in front of it.
-/

namespace AuditReports.Text

section Digits

variable {digits rest : List Char} (decimal : ∀ digit ∈ digits, digit.isDigit = true)
  (apart : ∀ next ∈ rest.head?, next.isDigit = false)

include decimal apart

theorem takeWhile_isDigit : (digits ++ rest).takeWhile (·.isDigit) = digits := by
  rw [List.takeWhile_append_of_pos decimal]
  cases rest with
  | nil => simp
  | cons next rest => simp [apart next rfl]

theorem dropWhile_isDigit : (digits ++ rest).dropWhile (·.isDigit) = rest := by
  rw [List.dropWhile_append_of_pos decimal]
  cases rest with
  | nil => rfl
  | cons next rest => simp [apart next rfl]

end Digits

theorem isDigit_toDigits (number : Nat) : ∀ digit ∈ Nat.toDigits 10 number, digit.isDigit = true :=
  fun _ listed => Nat.isDigit_of_mem_toDigits (by decide) (by decide) listed

theorem not_mem_toDigits (character : Char) (other : character.isDigit = false) (number : Nat) :
    character ∉ Nat.toDigits 10 number := by
  intro listed
  have digit := isDigit_toDigits number character listed
  rw [other] at digit
  cases digit

/-- The digits of ASCII amount to a number from zero to `limit`. -/
structure IsDecimal (limit value : Nat) (digits : List Char) : Prop where
  nonempty : digits ≠ []
  decimal : ∀ digit ∈ digits, digit.isDigit = true
  amounts : Nat.ofDigitChars 10 digits 0 = value
  bounded : value ≤ limit

/-- A number from zero to `limit`, perhaps with a plus sign in front of its digits. -/
inductive IsNatural (limit value : Nat) : List Char → Prop where
  | plain {digits : List Char} (isDecimal : IsDecimal limit value digits) :
      IsNatural limit value digits
  | signed {digits : List Char} (isDecimal : IsDecimal limit value digits) :
      IsNatural limit value ('+' :: digits)

theorem le_ofDigitChars (digits : List Char) (start : Nat) :
    start ≤ Nat.ofDigitChars 10 digits start := by
  induction digits generalizing start with
  | nil => exact Nat.le_refl start
  | cons digit digits ih =>
      rw [Nat.ofDigitChars_cons]
      exact Nat.le_trans (by omega) (ih _)

theorem digitsWithin_eq_ok_iff {limit start value : Nat} {excess : IntegerError}
    {digits : List Char} (fits : start ≤ limit) :
    digitsWithin limit excess start digits = .ok value ↔
      (∀ digit ∈ digits, digit.isDigit = true) ∧
        Nat.ofDigitChars 10 digits start = value ∧ value ≤ limit := by
  induction digits generalizing start with
  | nil =>
      simp only [digitsWithin, Except.ok.injEq, Nat.ofDigitChars_nil]
      constructor
      · rintro rfl
        exact ⟨by simp, rfl, fits⟩
      · exact fun read => read.2.1
  | cons digit digits ih =>
      rw [digitsWithin, Nat.ofDigitChars_cons, List.forall_mem_cons]
      cases isDigit : digit.isDigit with
      | false => simp
      | true =>
          rw [if_pos rfl]
          rcases Nat.lt_or_ge limit (10 * start + (digit.toNat - '0'.toNat)) with exceeds | within
          · -- What has become too large stays too large.
            have grows := le_ofDigitChars digits (10 * start + (digit.toNat - '0'.toNat))
            simp only [if_pos exceeds]
            constructor
            · intro read
              cases read
            · rintro ⟨_, amounts, bounded⟩
              omega
          · rw [if_neg (Nat.not_lt.mpr within), ih within]
            simp

theorem someDigits_eq_ok_iff {limit value : Nat} {excess : IntegerError} {digits : List Char} :
    someDigits limit excess digits = .ok value ↔ IsDecimal limit value digits := by
  cases digits with
  | nil =>
      constructor
      · intro read
        cases read
      · intro isDecimal
        exact absurd rfl isDecimal.nonempty
  | cons digit digits =>
      have all : someDigits limit excess (digit :: digits) =
          digitsWithin limit excess 0 (digit :: digits) := rfl
      rw [all, digitsWithin_eq_ok_iff (Nat.zero_le limit)]
      constructor
      · rintro ⟨decimal, amounts, bounded⟩
        exact ⟨List.cons_ne_nil _ _, decimal, amounts, bounded⟩
      · rintro ⟨_, decimal, amounts, bounded⟩
        exact ⟨decimal, amounts, bounded⟩

/-- Exactly the numbers within the limit are read. -/
theorem natural_eq_ok_iff {limit value : Nat} {characters : List Char} :
    natural limit characters = .ok value ↔ IsNatural limit value characters := by
  constructor
  · intro read
    unfold natural at read
    split at read
    · cases read
    · exact .signed (someDigits_eq_ok_iff.mp read)
    · exact .plain (someDigits_eq_ok_iff.mp read)
  · intro isNatural
    cases isNatural with
    | signed isDecimal => exact someDigits_eq_ok_iff.mpr isDecimal
    | plain isDecimal =>
        unfold natural
        split
        · exact absurd rfl isDecimal.nonempty
        · have plus := isDecimal.decimal '+' List.mem_cons_self
          cases plus
        · exact someDigits_eq_ok_iff.mpr isDecimal

end AuditReports.Text
