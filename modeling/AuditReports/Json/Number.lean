/-!
# Numbers in JSON

A number is kept as it is written: a sign, a whole part without leading zeros, the digits of a
fraction and an exponent. A field that asks for a whole number takes only a number written as one.
Where a number is kept without being asked for, it is an integer if it is written as one and fits
into sixty-four bits with or without a sign, and a binary floating-point number otherwise. The
floating-point number is computed in a fixed order of operations: as many leading digits as fit into
sixty-four bits are taken as they are, and the result is then scaled by one power of ten. It is
therefore not always the nearest one.
-/

namespace AuditReports.Json

/-- A number as it is written. A fraction without digits is no fraction. -/
structure Literal where
  negative : Bool
  whole : Nat
  fraction : List Nat
  exponent : Option Int
  deriving DecidableEq, Repr

/-- A number as it is kept: an integer, or the bits of a floating-point number. -/
inductive Number where
  | integer (value : Int)
  | binary (bits : UInt64)
  deriving DecidableEq, Repr

namespace Literal

/-- The way to write an integer. -/
def ofInt (value : Int) : Literal :=
  ⟨value < 0, value.natAbs, [], none⟩

/-- The integer, if the number is written as one. A negative zero is not. -/
def integer? (literal : Literal) : Option Int :=
  if !literal.fraction.isEmpty || literal.exponent.isSome then none
  else if literal.negative then
    if literal.whole == 0 then none else some (-(literal.whole : Int))
  else some literal.whole

/-- The largest whole number of sixty-four bits. -/
def largestWord : Nat := Nat.pow 2 64 - 1

/-- Drops final digits until the number fits into sixty-four bits; counts the digits dropped. -/
def leadingDigits : Nat → Nat → Nat → Nat × Nat
  | 0, value, dropped => (value, dropped)
  | budget + 1, value, dropped =>
      if value ≤ largestWord then (value, dropped)
      else leadingDigits budget (value / 10) (dropped + 1)

/-- Appends the digits of a fraction as long as they fit; counts the digits appended. -/
def appendDigits (value : Nat) : List Nat → Nat × Nat
  | [] => (value, 0)
  | digit :: rest =>
      if largestWord < 10 * value + digit then (value, 0)
      else
        let (result, appended) := appendDigits (10 * value + digit) rest
        (result, appended + 1)

/-- The leading digits of a number and the power of ten they stand for. -/
def significand (literal : Literal) : Nat × Int :=
  let (whole, dropped) := leadingDigits (literal.whole.log2 + 1) literal.whole 0
  let (digits, appended) := appendDigits whole literal.fraction
  (digits, (dropped : Int) - appended + literal.exponent.getD 0)

/-- A power of ten with an exponent of at most 308. -/
def powerOfTen (exponent : Nat) : Float :=
  Float.ofScientific 1 false exponent

/-- Divides by a power of ten, in steps of at most 308. -/
def divideByPower : Nat → Float → Nat → Float
  | 0, value, _ => value
  | budget + 1, value, exponent =>
      if exponent ≤ 308 then value / powerOfTen exponent
      else if value == 0 then value
      else divideByPower budget (value / powerOfTen 308) (exponent - 308)

/-- Scales by a power of ten; there is no result beyond the largest number. -/
def scale (value : Float) (exponent : Int) : Option Float :=
  if exponent < 0 then some (divideByPower (exponent.natAbs / 308 + 1) value exponent.natAbs)
  else if exponent ≤ 308 then
    let scaled := value * powerOfTen exponent.toNat
    if scaled.isInf then none else some scaled
  else if value == 0 then some value
  else none

/-- The floating-point number, unless the number is too large for one. -/
def binary? (literal : Literal) : Option Number :=
  let (digits, exponent) := literal.significand
  (scale (UInt64.ofNat digits).toFloat exponent).map fun magnitude =>
    .binary (if literal.negative then -magnitude else magnitude).toBits

/-- The number as it is kept. -/
def number? (literal : Literal) : Option Number :=
  match literal.integer? with
  | some value =>
      if -(Nat.pow 2 63 : Int) ≤ value && value ≤ largestWord then some (.integer value)
      else literal.binary?
  | none => literal.binary?

/-- The digits of a fraction without the zeros at its end. -/
def shortened (digits : List Nat) : List Nat :=
  (digits.reverse.dropWhile (· == 0)).reverse

/-- Writes `mantissa * 2 ^ exponent` in full, with at least one digit after the point. -/
def ofBinaryParts (negative : Bool) (mantissa : Nat) (exponent : Int) : Literal :=
  if 0 ≤ exponent then ⟨negative, mantissa * Nat.pow 2 exponent.toNat, [0], none⟩
  else
    let places := exponent.natAbs
    let scaled := mantissa * Nat.pow 5 places
    let digits := (Nat.toDigits 10 (scaled % Nat.pow 10 places)).map fun digit =>
      digit.toNat - '0'.toNat
    let fraction := shortened (List.replicate (places - digits.length) 0 ++ digits)
    ⟨negative, scaled / Nat.pow 10 places, if fraction.isEmpty then [0] else fraction, none⟩

end Literal

namespace Number

/-- A way to write a number that reads as the same number. A floating-point number is written out
in full, which is always possible. -/
def literal : Number → Literal
  | .integer value => Literal.ofInt value
  | .binary bits =>
      let negative := bits.toNat / Nat.pow 2 63 == 1
      let biased : Nat := bits.toNat / Nat.pow 2 52 % Nat.pow 2 11
      let fraction : Nat := bits.toNat % Nat.pow 2 52
      if biased == 0 then Literal.ofBinaryParts negative fraction (-1074)
      else Literal.ofBinaryParts negative (Nat.pow 2 52 + fraction) ((biased : Int) - 1075)

end Number

end AuditReports.Json
