import Mathlib.Algebra.Order.Field.Rat
import Mathlib.Tactic.Linarith
import Mathlib.Tactic.Ring
import AuditReports.FileSize
import AuditReports.Proofs.Text.Forms
import AuditReports.Proofs.Text.Integers

/-!
# File sizes as they are read

What is printed for a size is a number and a unit, and both can be read again. The unit is the
largest one that the size reaches, up to terabytes, so the value to be printed is at least one of
it, and less than 1024 if there is a larger unit. The number that is printed is that value rounded,
and here the upper bound is lost: the unit has been chosen by the time the number is rounded. From
half a unit below the next unit on, a size is shown as 1024 of its unit.

No size below a terabyte has more significant bits than are kept, so up to there the value that is
rounded is the exact one.

Each step from a size to what is printed for it keeps the order: keeping the significant bits,
choosing the unit, and rounding. Where the precision changes, at ten of a unit and at the next unit,
what is printed just below is no more than what is printed from there on, so the amounts that are
read back are in order too.
-/

namespace AuditReports.FileSize

/-! ## Reading a size -/

/-- The number that is written with digits, and perhaps a point among them. -/
def number? (characters : List Char) : Option ℚ :=
  let (whole, fraction) := Text.cutFirst '.' characters
  let digits := whole ++ fraction.getD []
  if !whole.isEmpty && digits.all Char.isDigit then
    some (Nat.ofDigitChars 10 digits 0 / 10 ^ (fraction.getD []).length)
  else none

def unitNames : List String := ["bytes", "KB", "MB", "GB", "TB"]

/-- The number that is printed, and the power of 1024 that its unit stands for. -/
def told? (text : String) : Option (ℚ × Nat) :=
  match Text.cutFirst ' ' text.toList with
  | (number, some unit) => do
      return (← number? number, ← unitNames.idxOf? (String.ofList unit))
  | (_, none) => none

/-- The number of bytes that is meant. -/
def amount? (text : String) : Option ℚ :=
  (told? text).map fun (number, power) => number * 1024 ^ power

theorem isEmpty_toDigits (number : Nat) : (Nat.toDigits 10 number).isEmpty = false :=
  List.isEmpty_eq_false_iff.mpr Nat.toDigits_ne_nil

theorem all_isDigit_toDigits (number : Nat) : (Nat.toDigits 10 number).all Char.isDigit = true :=
  List.all_eq_true.mpr (Text.isDigit_toDigits number)

theorem number?_whole (number : Nat) : number? (Nat.toDigits 10 number) = some (number : ℚ) := by
  have cut := Text.cutFirst_of_not_mem (Text.not_mem_toDigits '.' rfl number)
  simp [number?, cut, isEmpty_toDigits, all_isDigit_toDigits, Nat.ofDigitChars_ten_toDigits]

theorem number?_tenths (tenths : Nat) :
    number? (Nat.toDigits 10 (tenths / 10) ++ '.' :: Nat.toDigits 10 (tenths % 10)) =
      some (tenths / 10 : ℚ) := by
  have cut := Text.cutFirst_append_cons (Text.not_mem_toDigits '.' rfl (tenths / 10))
    (Nat.toDigits 10 (tenths % 10))
  have last : tenths % 10 < 10 := Nat.mod_lt _ (by decide)
  have single : Nat.toDigits 10 (tenths % 10) = [(tenths % 10).digitChar] :=
    Nat.toDigits_of_lt_base last
  have amount : Nat.ofDigitChars 10
      (Nat.toDigits 10 (tenths / 10) ++ Nat.toDigits 10 (tenths % 10)) 0 = tenths := by
    rw [Nat.ofDigitChars_append, Nat.ofDigitChars_ten_toDigits, single, Nat.ofDigitChars_cons,
      Nat.ofDigitChars_nil, Nat.toNat_digitChar_of_lt_ten last]
    have zero : '0'.toNat = 48 := rfl
    omega
  simp only [number?, cut, Option.getD_some, List.all_append, isEmpty_toDigits,
    all_isDigit_toDigits, amount]
  simp [single]

/-- What is printed can be read again. -/
theorem told?_text_shown {size : Shown} (unit : size.power ≤ 4)
    (whole : size.decimal = false → 10 ∣ size.tenths) :
    told? size.text = some ((size.tenths : ℚ) / 10, size.power) := by
  have named : unitNames.idxOf? (unitName size.power) = some size.power := by
    generalize size.power = power at unit
    have all : ∀ power ≤ 4, unitNames.idxOf? (unitName power) = some power := by decide
    exact all power unit
  have told : ∀ number : List Char, ' ' ∉ number →
      told? (String.ofList number ++ " " ++ unitName size.power) =
        (number? number).map fun value => (value, size.power) := by
    intro number absent
    have spelled : (String.ofList number ++ " " ++ unitName size.power).toList =
        number ++ ' ' :: (unitName size.power).toList := by
      simp
    simp only [told?, spelled, Text.cutFirst_append_cons absent, String.ofList_toList, named]
    cases number? number <;> rfl
  have apart := Text.not_mem_toDigits ' ' rfl
  cases decimal : size.decimal with
  | false =>
      rcases whole decimal with ⟨number, tenths⟩
      have written : size.text =
          String.ofList (Nat.toDigits 10 number) ++ " " ++ unitName size.power := by
        apply String.toList_injective
        simp [Shown.text, decimal, tenths, toString]
      rw [written, told _ (apart number), number?_whole, tenths]
      simp
  | true =>
      have written : size.text =
          String.ofList (Nat.toDigits 10 (size.tenths / 10) ++
            '.' :: Nat.toDigits 10 (size.tenths % 10)) ++ " " ++ unitName size.power := by
        apply String.toList_injective
        simp [Shown.text, decimal, toString]
      have absent : ' ' ∉ Nat.toDigits 10 (size.tenths / 10) ++
          '.' :: Nat.toDigits 10 (size.tenths % 10) := by
        simp [apart]
      rw [written, told _ absent, number?_tenths]
      rfl

/-! ## Rounding -/

/-- A half goes to the even neighbour, so it stays at the bound if and only if that is even. -/
theorem roundDiv_le_iff {dividend divisor bound : Nat} (positive : 0 < divisor) :
    roundDiv dividend divisor ≤ bound ↔
      2 * dividend < (2 * bound + 1) * divisor ∨
        2 * dividend = (2 * bound + 1) * divisor ∧ bound % 2 = 0 := by
  have parts := Nat.div_add_mod dividend divisor
  have small := Nat.mod_lt dividend positive
  simp only [roundDiv]
  generalize dividend / divisor = quotient at *
  generalize dividend % divisor = rest at *
  have product : (2 * bound + 1) * divisor = 2 * (divisor * bound) + divisor := by ring
  rcases Nat.lt_trichotomy quotient bound with below | rfl | above
  · have room : divisor * (quotient + 1) ≤ divisor * bound := Nat.mul_le_mul_left _ below
    rw [Nat.mul_succ] at room
    split_ifs <;> omega
  · split_ifs <;> omega
  · have room : divisor * (bound + 1) ≤ divisor * quotient := Nat.mul_le_mul_left _ above
    rw [Nat.mul_succ] at room
    split_ifs <;> omega

theorem le_roundDiv {dividend divisor bound : Nat} (positive : 0 < divisor)
    (reached : bound * divisor ≤ dividend) : bound ≤ roundDiv dividend divisor := by
  by_contra above
  have lower : roundDiv dividend divisor ≤ bound - 1 := by omega
  have product : (2 * (bound - 1) + 1) * divisor + divisor = 2 * (bound * divisor) := by
    rw [← Nat.succ_mul, ← Nat.mul_assoc]
    congr 1
    omega
  rcases (roundDiv_le_iff positive).mp lower with below | ⟨half, _⟩
  · omega
  · omega

theorem roundDiv_mono {smaller larger divisor : Nat} (positive : 0 < divisor)
    (le : smaller ≤ larger) : roundDiv smaller divisor ≤ roundDiv larger divisor := by
  rw [roundDiv_le_iff positive]
  rcases (roundDiv_le_iff positive).mp (Nat.le_refl (roundDiv larger divisor)) with
    below | ⟨half, even⟩
  · exact .inl (by omega)
  · rcases Nat.lt_or_eq_of_le le with less | rfl
    · exact .inl (by omega)
    · exact .inr ⟨half, even⟩

/-- Rounding is off by half a unit at most. -/
theorem roundDiv_near {dividend divisor : Nat} (positive : 0 < divisor) :
    2 * dividend ≤ 2 * (roundDiv dividend divisor * divisor) + divisor ∧
      2 * (roundDiv dividend divisor * divisor) ≤ 2 * dividend + divisor := by
  have parts := Nat.div_add_mod' dividend divisor
  have small := Nat.mod_lt dividend positive
  simp only [roundDiv]
  generalize dividend / divisor = quotient at *
  generalize dividend % divisor = rest at *
  have next : (quotient + 1) * divisor = quotient * divisor + divisor := Nat.succ_mul _ _
  split_ifs
  · omega
  · omega
  · rcases Nat.mod_two_eq_zero_or_one quotient with even | odd
    · rw [even, Nat.add_zero]
      omega
    · rw [odd]
      omega

/-! ## The value and its unit -/

theorem significant_of_lt {count : Nat} (few : count < 2 ^ 53) : significant count = count :=
  if_pos few

section Significant

variable {count : Nat} (many : 2 ^ 53 ≤ count)

include many

theorem significant_eq : significant count =
    roundDiv count (2 ^ (count.log2 - 52)) * 2 ^ (count.log2 - 52) :=
  if_neg (Nat.not_lt.mpr many)

/-- The leading bit is fifty-two places above the last one that is kept. -/
theorem leading_bit : 2 ^ 52 * 2 ^ (count.log2 - 52) = 2 ^ count.log2 ∧
    2 ^ 53 ≤ 2 ^ count.log2 ∧ 2 ^ count.log2 ≤ count := by
  have nonzero : count ≠ 0 := by
    rintro rfl
    omega
  have length : 53 ≤ count.log2 := (Nat.le_log2 nonzero).mpr many
  refine ⟨?_, Nat.pow_le_pow_right (by decide) length, Nat.log2_self_le nonzero⟩
  rw [← Nat.pow_add, Nat.add_sub_cancel' (by omega)]

theorem two_pow_log2_le_significant : 2 ^ count.log2 ≤ significant count := by
  rcases leading_bit many with ⟨whole, -, reached⟩
  rw [significant_eq many, ← whole]
  rw [← whole] at reached
  exact Nat.mul_le_mul_right _ (le_roundDiv (Nat.two_pow_pos _) reached)

theorem significant_le_two_pow : significant count ≤ 2 ^ (count.log2 + 1) := by
  rcases leading_bit many with ⟨whole, -, -⟩
  have below : count < 2 ^ (count.log2 + 1) := Nat.lt_log2_self
  have units : 2 ^ (count.log2 + 1) = 2 ^ 53 * 2 ^ (count.log2 - 52) := by
    rw [Nat.pow_succ, ← whole]
    omega
  rw [units] at below ⊢
  rw [significant_eq many]
  refine Nat.mul_le_mul_right _ ((roundDiv_le_iff (Nat.two_pow_pos _)).mpr (.inl ?_))
  omega

end Significant

theorem significant_mono {smaller larger : Nat} (le : smaller ≤ larger) :
    significant smaller ≤ significant larger := by
  rcases Nat.lt_or_ge larger (2 ^ 53) with few | many
  · rwa [significant_of_lt few, significant_of_lt (Nat.lt_of_le_of_lt le few)]
  · have lower := two_pow_log2_le_significant many
    rcases Nat.lt_or_ge smaller (2 ^ 53) with few | manyToo
    · rw [significant_of_lt few]
      have size := (leading_bit many).2.1
      omega
    · have lengths : smaller.log2 ≤ larger.log2 :=
        (Nat.le_log2 (by omega)).mpr (Nat.le_trans (leading_bit manyToo).2.2 le)
      rcases Nat.lt_or_eq_of_le lengths with shorter | same
      · have upper := significant_le_two_pow manyToo
        have between : 2 ^ (smaller.log2 + 1) ≤ 2 ^ larger.log2 :=
          Nat.pow_le_pow_right (by decide) shorter
        omega
      · rw [significant_eq manyToo, significant_eq many, same]
        exact Nat.mul_le_mul_right _ (roundDiv_mono (Nat.two_pow_pos _) le)

/-- Keeping fifty-three bits makes hardly any difference. -/
theorem significant_near (count : Nat) :
    2 ^ 53 * significant count ≤ (2 ^ 53 + 1) * count ∧
      (2 ^ 53 - 1) * count ≤ 2 ^ 53 * significant count := by
  rcases Nat.lt_or_ge count (2 ^ 53) with few | many
  · rw [significant_of_lt few]
    omega
  · rcases leading_bit many with ⟨whole, -, reached⟩
    rw [← whole] at reached
    have near := @roundDiv_near count _ (Nat.two_pow_pos (count.log2 - 52))
    rw [← significant_eq many] at near
    omega

/-- The unit is the largest one that the size reaches. -/
theorem power_spec (size : Nat) :
    power size ≤ 4 ∧ (power size ≠ 0 → 1024 ^ power size ≤ size) ∧
      (power size ≠ 4 → size < 1024 ^ (power size + 1)) := by
  simp only [power, Nat.pow_eq]
  split_ifs <;> simp <;> omega

/-- Keeping the significant bits only does not change the unit. -/
theorem power_significant (count : Nat) : power (significant count) = power count := by
  rcases Nat.lt_or_ge count (2 ^ 53) with few | many
  · rw [significant_of_lt few]
  · have largest : ∀ size, 2 ^ 52 ≤ size → power size = 4 := by
      intro size large
      simp only [power, Nat.pow_eq]
      split_ifs <;> omega
    rcases leading_bit many with ⟨-, long, -⟩
    have kept := two_pow_log2_le_significant many
    rw [largest _ (by omega), largest count (by omega)]

theorem power_shown (count : Nat) : (shown count).power = power count := by
  rw [← power_significant]
  simp only [shown]
  split_ifs with bytes small <;> simp_all

theorem ten_dvd_tenths (count : Nat) (whole : (shown count).decimal = false) :
    10 ∣ (shown count).tenths := by
  revert whole
  simp only [shown]
  split_ifs <;> simp

theorem told?_text (count : Nat) :
    told? (text count) = some (((shown count).tenths : ℚ) / 10, power count) := by
  have unit : (shown count).power ≤ 4 := by
    rw [power_shown]
    exact (power_spec count).1
  rw [text, told?_text_shown unit (ten_dvd_tenths count), power_shown]

theorem power_mono {smaller larger : Nat} (le : smaller ≤ larger) :
    power smaller ≤ power larger := by
  by_contra above
  have known := (power_spec smaller).1
  have reached := (power_spec smaller).2.1 (by omega)
  have below := (power_spec larger).2.2 (by omega)
  have units : 1024 ^ (power larger + 1) ≤ 1024 ^ power smaller :=
    Nat.pow_le_pow_right (by decide) (by omega)
  omega

theorem tenths_bytes {count : Nat} (bytes : power count = 0) :
    (shown count).tenths = 10 * count := by
  simp [shown, power_significant, bytes]

/-- One place is printed below ten, and none from ten on. -/
theorem tenths_significant {count : Nat} (scaled : power count ≠ 0) :
    (shown count).tenths =
      if 10 * 1024 ^ power count ≤ significant count then
        10 * roundDiv (significant count) (1024 ^ power count)
      else roundDiv (10 * significant count) (1024 ^ power count) := by
  simp only [shown, power_significant, Nat.pow_eq, beq_iff_eq, if_neg scaled]
  split_ifs <;> rfl

theorem ten_le_tenths {count : Nat} (scaled : power count ≠ 0) : 10 ≤ (shown count).tenths := by
  have reached := (power_spec (significant count)).2.1
  rw [power_significant] at reached
  have positive : 0 < 1024 ^ power count := Nat.pow_pos (by decide)
  rw [tenths_significant scaled]
  split
  · next large =>
      have atLeast := le_roundDiv positive large
      omega
  · exact le_roundDiv positive (Nat.mul_le_mul_left 10 (reached scaled))

theorem tenths_shown {count : Nat} (scaled : power count ≠ 0) (last : power count ≠ 4) :
    (shown count).tenths =
      if 10 * 1024 ^ power count ≤ count then 10 * roundDiv count (1024 ^ power count)
      else roundDiv (10 * count) (1024 ^ power count) := by
  have few : count < 2 ^ 53 := by
    have below := (power_spec count).2.2 last
    have largest : 1024 ^ (power count + 1) ≤ 1024 ^ 4 :=
      Nat.pow_le_pow_right (by decide) (by have := (power_spec count).1; omega)
    omega
  rw [tenths_significant scaled, significant_of_lt few]

/-- A size from one unit up to the next one is rounded to at least one, and to less than 1024
unless it is less than half a unit away from the next one. -/
theorem tenths_bounds {count : Nat} (scaled : power count ≠ 0) (last : power count ≠ 4) :
    10 ≤ (shown count).tenths ∧ (shown count).tenths ≤ 10240 ∧
      ((shown count).tenths < 10240 ↔ 2 * count < 2047 * 1024 ^ power count) := by
  have below := (power_spec count).2.2 last
  have positive : 0 < 1024 ^ power count := Nat.pow_pos (by decide)
  refine ⟨ten_le_tenths scaled, ?_⟩
  rw [Nat.pow_succ] at below
  rw [tenths_shown scaled last]
  generalize 1024 ^ power count = unit at *
  split
  · have atMost : roundDiv count unit ≤ 1024 := (roundDiv_le_iff positive).mpr (.inl (by omega))
    have less : roundDiv count unit ≤ 1023 ↔ 2 * count < 2047 * unit := by
      rw [roundDiv_le_iff positive]
      simp
    omega
  · next small =>
      have atMost : roundDiv (10 * count) unit ≤ 100 :=
        (roundDiv_le_iff positive).mpr (.inl (by omega))
      omega

/-- A size of at least a kilobyte is printed in the largest unit that it reaches. In kilobytes,
megabytes and gigabytes, the number printed is at least one and at most 1024; it is less than 1024
if and only if the size is more than half a unit below the next unit. -/
theorem number_below_next_unit_iff {count : Nat} (scaled : 1024 ≤ count) :
    ∃ number power, told? (text count) = some (number, power) ∧
      1 ≤ power ∧ power ≤ 4 ∧ 1024 ^ power ≤ count ∧
      (power < 4 → count < 1024 ^ (power + 1) ∧ 1 ≤ number ∧ number ≤ 1024 ∧
        (number < 1024 ↔ 2 * count < 2047 * 1024 ^ power)) := by
  rcases power_spec count with ⟨known, reached, below⟩
  have nonzero : power count ≠ 0 := by
    intro bytes
    have small := below (by omega)
    rw [bytes] at small
    omega
  refine ⟨_, _, told?_text count, by omega, known, reached nonzero, fun smaller => ?_⟩
  have last : power count ≠ 4 := by omega
  rcases tenths_bounds nonzero last with ⟨atLeast, atMost, less⟩
  refine ⟨below last, ?_, ?_, ?_⟩
  · rw [le_div_iff₀ (by norm_num)]
    exact_mod_cast atLeast
  · rw [div_le_iff₀ (by norm_num)]
    exact_mod_cast atMost
  · rw [← less, div_lt_iff₀ (by norm_num)]
    exact_mod_cast Iff.rfl

/-- The largest size that is shown as less than 1024 kilobytes. -/
theorem number_below_next_unit_of_1048063 :
    text 1048063 = "1023 KB" ∧ ∃ number, told? (text 1048063) = some (number, 1) ∧
      1 ≤ number ∧ number < 1024 := by
  refine ⟨by decide +kernel, ?_⟩
  rcases number_below_next_unit_iff (show 1024 ≤ 1048063 by decide) with
    ⟨number, power, told, -, -, -, bounds⟩
  have unit : power = 1 := by
    have same := told.symm.trans (told?_text 1048063)
    exact (Prod.mk.inj (Option.some.inj same)).2
  subst unit
  rcases bounds (by decide) with ⟨-, atLeast, -, less⟩
  exact ⟨number, told, atLeast, less.mpr (by decide)⟩

/-- A size that is less than a megabyte, and is shown as 1024 kilobytes. -/
theorem size_shown_as_1024 :
    text 1048575 = "1024 KB" ∧ told? (text 1048575) = some (1024, 1) := by
  refine ⟨by decide +kernel, ?_⟩
  rw [told?_text]
  have rounded : (shown 1048575).tenths = 10240 := by decide +kernel
  have unit : power 1048575 = 1 := by decide
  rw [rounded, unit]
  norm_num

example : text 1536 = "1.5 KB" := by
  decide +kernel

/-! ## The order of sizes -/

/-- Ten times the number of bytes that is meant. -/
def tenfold (count : Nat) : Nat :=
  (shown count).tenths * 1024 ^ power count

theorem amount?_text (count : Nat) : amount? (text count) = some ((tenfold count : ℚ) / 10) := by
  rw [amount?, told?_text, tenfold, Option.map_some]
  congr 1
  push_cast
  ring

/-- No more is printed than one of the next unit, if there is one. -/
theorem tenths_le {count : Nat} (last : power count ≠ 4) : (shown count).tenths ≤ 10240 := by
  by_cases bytes : power count = 0
  · have below := (power_spec count).2.2 last
    rw [bytes] at below
    rw [tenths_bytes bytes]
    omega
  · exact (tenths_bounds bytes last).2.1

/-- Within a unit, what is printed with a decimal is at most ten, and what is printed without one is
at least that. -/
theorem tenths_mono {smaller larger : Nat} (le : smaller ≤ larger)
    (same : power smaller = power larger) :
    (shown smaller).tenths ≤ (shown larger).tenths := by
  by_cases bytes : power larger = 0
  · rw [tenths_bytes bytes, tenths_bytes (same.trans bytes)]
    omega
  · have sizes := significant_mono le
    have positive : 0 < 1024 ^ power larger := Nat.pow_pos (by decide)
    rw [tenths_significant bytes, tenths_significant (same ▸ bytes), same]
    generalize 1024 ^ power larger = unit at *
    split_ifs with first second second
    · exact Nat.mul_le_mul_left 10 (roundDiv_mono positive sizes)
    · omega
    · have atMost : roundDiv (10 * significant smaller) unit ≤ 100 :=
        (roundDiv_le_iff positive).mpr (.inl (by omega))
      have atLeast := le_roundDiv positive second
      omega
    · exact roundDiv_mono positive (Nat.mul_le_mul_left 10 sizes)

theorem tenfold_mono {smaller larger : Nat} (le : smaller ≤ larger) :
    tenfold smaller ≤ tenfold larger := by
  rcases Nat.lt_or_eq_of_le (power_mono le) with lower | same
  · have last : power smaller ≠ 4 := by
      have known := (power_spec larger).1
      omega
    calc
      tenfold smaller ≤ 10240 * 1024 ^ power smaller := Nat.mul_le_mul_right _ (tenths_le last)
      _ = 10 * 1024 ^ (power smaller + 1) := by ring
      _ ≤ 10 * 1024 ^ power larger :=
        Nat.mul_le_mul_left 10 (Nat.pow_le_pow_right (by decide) lower)
      _ ≤ tenfold larger := Nat.mul_le_mul_right _ (ten_le_tenths (by omega))
  · rw [tenfold, tenfold, same]
    exact Nat.mul_le_mul_right _ (tenths_mono le same)

/-- What is printed is rounded, but off by no more than a tenth. -/
theorem tenfold_near (count : Nat) : 9 * count ≤ tenfold count ∧ tenfold count ≤ 11 * count := by
  by_cases bytes : power count = 0
  · rw [tenfold, tenths_bytes bytes, bytes]
    omega
  · have size := significant_near count
    have reached := (power_spec (significant count)).2.1
    rw [power_significant] at reached
    have reached := reached bytes
    have positive : 0 < 1024 ^ power count := Nat.pow_pos (by decide)
    rw [tenfold, tenths_significant bytes]
    generalize 1024 ^ power count = unit at *
    split
    · have near := @roundDiv_near (significant count) unit positive
      rw [Nat.mul_assoc]
      omega
    · have near := @roundDiv_near (10 * significant count) unit positive
      omega

/-- The amounts that are read back are in the order of the sizes that were printed, and off by no
more than a tenth. -/
theorem larger_size_reads_as_larger {smaller larger : Nat} (le : smaller ≤ larger) :
    ∃ low high, amount? (text smaller) = some low ∧ amount? (text larger) = some high ∧
      low ≤ high ∧ |low - smaller| ≤ smaller / 10 ∧ |high - larger| ≤ larger / 10 := by
  have near : ∀ count : Nat, |(tenfold count : ℚ) / 10 - count| ≤ count / 10 := by
    intro count
    have least : (9 * count : ℚ) ≤ tenfold count := by exact_mod_cast (tenfold_near count).1
    have most : (tenfold count : ℚ) ≤ 11 * count := by exact_mod_cast (tenfold_near count).2
    rw [abs_le]
    constructor <;> linarith
  have order : (tenfold smaller : ℚ) ≤ tenfold larger := by exact_mod_cast tenfold_mono le
  exact ⟨_, _, amount?_text smaller, amount?_text larger, by linarith, near smaller, near larger⟩

/-- At the end of a unit the two texts have different units, and are read back as the same amount. -/
theorem last_kilobyte_reads_as_megabyte :
    text 1048575 = "1024 KB" ∧ text 1048576 = "1.0 MB" ∧
      ∃ low high, amount? (text 1048575) = some low ∧ amount? (text 1048576) = some high ∧
        low ≤ high := by
  rcases larger_size_reads_as_larger (show 1048575 ≤ 1048576 by decide) with
    ⟨low, high, first, second, order, _, _⟩
  exact ⟨by decide +kernel, by decide +kernel, low, high, first, second, order⟩

end AuditReports.FileSize
