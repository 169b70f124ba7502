/-!
# Whole numbers in decimal

Settings and arguments are read as whole numbers between two bounds. Only the digits of ASCII count,
a plus sign may stand in front, and a minus sign where negative numbers are allowed. The digits are
read from the left, and the first thing that is wrong decides the error.
-/

namespace AuditReports.Text

/-- Why a text is not a whole number within its bounds. -/
inductive IntegerError where
  | empty
  | invalidDigit
  | tooLarge
  | tooSmall
  deriving DecidableEq, Repr

namespace IntegerError

def message : IntegerError → String
  | .empty => "cannot parse integer from empty string"
  | .invalidDigit => "invalid digit found in string"
  | .tooLarge => "number too large to fit in target type"
  | .tooSmall => "number too small to fit in target type"

end IntegerError

/-- Continues a number whose digits so far amount to `value`; `excess` is the error for a number
above `limit`. -/
def digitsWithin (limit : Nat) (excess : IntegerError) (value : Nat) :
    List Char → Except IntegerError Nat
  | [] => .ok value
  | character :: rest =>
      if character.isDigit then
        let next := 10 * value + (character.toNat - '0'.toNat)
        if limit < next then .error excess else digitsWithin limit excess next rest
      else .error .invalidDigit

/-- Reads a number that has at least one digit. -/
def someDigits (limit : Nat) (excess : IntegerError) : List Char → Except IntegerError Nat
  | [] => .error .invalidDigit
  | digits => digitsWithin limit excess 0 digits

/-- Reads a number from zero to `limit`. -/
def natural (limit : Nat) : List Char → Except IntegerError Nat
  | [] => .error .empty
  | '+' :: digits => someDigits limit .tooLarge digits
  | digits => someDigits limit .tooLarge digits

/-- Reads a number from `-limit - 1` to `limit`. -/
def integer (limit : Nat) : List Char → Except IntegerError Int
  | [] => .error .empty
  | '-' :: digits => (someDigits (limit + 1) .tooSmall digits).map fun value => -(value : Int)
  | '+' :: digits => (someDigits limit .tooLarge digits).map Int.ofNat
  | digits => (someDigits limit .tooLarge digits).map Int.ofNat

end AuditReports.Text
