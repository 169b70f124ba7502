/-!
# File sizes

A size is shown in the largest unit of which there is at least one, up to terabytes. The scaled
value has the precision of a binary floating-point number with fifty-three significant bits; it is
shown with one decimal below ten and with none from ten on, and a half goes to the even neighbour.
Since the unit is chosen before the value is rounded, a value just below a unit is shown as 1024 of
the unit before.
-/

namespace AuditReports.FileSize

/-- The whole number nearest to a quotient; a half goes to the even neighbour. -/
def roundDiv (dividend divisor : Nat) : Nat :=
  let quotient := dividend / divisor
  let twice := 2 * (dividend % divisor)
  if twice < divisor then quotient
  else if divisor < twice then quotient + 1
  else quotient + quotient % 2

/-- The nearest number with at most fifty-three significant bits. -/
def significant (count : Nat) : Nat :=
  if count < Nat.pow 2 53 then count
  else
    let unit := Nat.pow 2 (count.log2 - 52)
    roundDiv count unit * unit

/-- The unit in which a size is shown, as a power of 1024. -/
def power (size : Nat) : Nat :=
  if size < 1024 then 0
  else if size < Nat.pow 1024 2 then 1
  else if size < Nat.pow 1024 3 then 2
  else if size < Nat.pow 1024 4 then 3
  else 4

def unitName : Nat → String
  | 0 => "bytes"
  | 1 => "KB"
  | 2 => "MB"
  | 3 => "GB"
  | _ => "TB"

/-- A size as it is shown: ten times the number printed, whether a decimal is printed, and the
power of 1024 that the unit stands for. -/
structure Shown where
  tenths : Nat
  decimal : Bool
  power : Nat
  deriving DecidableEq, Repr

def shown (count : Nat) : Shown :=
  let size := significant count
  let exponent := power size
  let unit := Nat.pow 1024 exponent
  if exponent == 0 then ⟨10 * count, false, 0⟩
  else if 10 * unit ≤ size then ⟨10 * roundDiv size unit, false, exponent⟩
  else ⟨roundDiv (10 * size) unit, true, exponent⟩

namespace Shown

def text (size : Shown) : String :=
  let number :=
    if size.decimal then s!"{size.tenths / 10}.{size.tenths % 10}" else s!"{size.tenths / 10}"
  s!"{number} {unitName size.power}"

end Shown

/-- A number of bytes for an operator to read. -/
def text (count : Nat) : String :=
  (shown count).text

end AuditReports.FileSize
