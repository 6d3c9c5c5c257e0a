/-!
# Whole numbers up to a bound

A number is written in decimal digits, with a plus sign before it or without. It is
read from the left, and the first fault decides.
-/

namespace RemoteShell.Decimal

/-- Why a text is no number up to a bound. -/
inductive NumberError where
  | empty
  | invalidDigit
  | tooLarge
  deriving DecidableEq, Repr

/-- The wording of a fault. -/
def NumberError.message : NumberError → String
  | .empty => "cannot parse integer from empty string"
  | .invalidDigit => "invalid digit found in string"
  | .tooLarge => "number too large to fit in target type"

/-- Reads further digits of a number. -/
def readDigits (limit value : Nat) : List Char → Except NumberError Nat
  | [] => .ok value
  | c :: rest =>
    if ¬ c.isDigit then .error .invalidDigit
    else if limit < value * 10 + (c.toNat - 48) then .error .tooLarge
    else readDigits limit (value * 10 + (c.toNat - 48)) rest

/-- Reads a number that is at most `limit`. -/
def readUpTo (limit : Nat) : List Char → Except NumberError Nat
  | [] => .error .empty
  | ['+'] => .error .invalidDigit
  | '+' :: digits => readDigits limit 0 digits
  | digits => readDigits limit 0 digits

end RemoteShell.Decimal
