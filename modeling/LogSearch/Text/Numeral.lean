/-!
# Whole numbers in settings

A whole number is written in decimal digits with an optional sign; `+5` is five and leading zeros
mean nothing.  What is refused is told apart: nothing to read, something that is no digit, and a
number that does not fit.

## What is here

* `readNatural` — a number from zero to a bound;
* `readInteger` — a number of 64 bits with its sign.
-/

set_option autoImplicit false
namespace LogSearch.Text

/-- Why a text is not a whole number. -/
inductive NumeralFault
  /-- There is nothing to read. -/
  | empty
  /-- Something stands there that is no digit, or no digit follows the sign. -/
  | invalidDigit
  /-- The number is above the largest that fits. -/
  | tooLarge
  /-- The number is below the smallest that fits. -/
  | tooSmall
  deriving DecidableEq, Repr

/-- The fault in words. -/
def NumeralFault.message : NumeralFault → String
  | .empty => "cannot parse integer from empty string"
  | .invalidDigit => "invalid digit found in string"
  | .tooLarge => "number too large to fit in target type"
  | .tooSmall => "number too small to fit in target type"

/-- The value of a decimal digit. -/
def digitValue? (c : Char) : Option Nat :=
  if c.isDigit then some (c.toNat - 48) else none

/-- The value of a run of digits above `bound`: the first fault from the left counts, so digits are
added while the number fits. -/
def readDigits (bound : Nat) : Nat → List Char → Except NumeralFault Nat
  | n, [] => .ok n
  | n, c :: rest =>
    match digitValue? c with
    | none => .error .invalidDigit
    | some d => if n * 10 + d ≤ bound then readDigits bound (n * 10 + d) rest else .error .tooLarge

/-- A number from zero to `bound`. -/
def readNatural (bound : Nat) : List Char → Except NumeralFault Nat
  | [] => .error .empty
  | ['+'] => .error .invalidDigit
  | '+' :: rest => readDigits bound 0 rest
  | cs => readDigits bound 0 cs

/-- A number from `-2^63` to `2^63 - 1`. -/
def readInteger : List Char → Except NumeralFault Int
  | ['-'] => .error .invalidDigit
  | '-' :: rest =>
    match readDigits (Nat.pow 2 63) 0 rest with
    | .ok n => .ok (-n)
    | .error .tooLarge => .error .tooSmall
    | .error fault => .error fault
  | cs => (readNatural (Nat.pow 2 63 - 1) cs).map Int.ofNat

end LogSearch.Text
