/-!
# Numerals of 32-bit integers

A numeral is an optional sign and at least one decimal digit. `readInt32` takes the digits from left
to right and keeps the value so far within the range of `Int32`. The first digit that leaves the
range or the first character that is no digit decides the error. Leading zeros change nothing.
-/

namespace TurtleGraphics.Text

/-- Why `readInt32` finds no integer in a text. -/
inductive NumeralError where
  | empty
  | invalidDigit
  | tooLarge
  | tooSmall
  deriving DecidableEq, Repr

def NumeralError.message : NumeralError → String
  | .empty => "cannot parse integer from empty string"
  | .invalidDigit => "invalid digit found in string"
  | .tooLarge => "number too large to fit in target type"
  | .tooSmall => "number too small to fit in target type"

/-- The value of `c` if it is an ASCII digit. -/
def digitValue (c : Char) : Option Nat :=
  if c.isDigit then some (c.toNat - '0'.toNat) else none

/-- Reads the digits that are left. `value` is the value of the digits so far, and a value beyond
`limit` is the error `beyond`. -/
def readDigits (limit : Nat) (beyond : NumeralError) : List Char → Nat → Except NumeralError Nat
  | [], value => .ok value
  | c :: cs, value =>
    match digitValue c with
    | none => .error .invalidDigit
    | some d =>
      if 10 * value + d ≤ limit then readDigits limit beyond cs (10 * value + d)
      else .error beyond

/-- Reads the digits of a numeral without a minus sign, up to `2 ^ 31 - 1`. -/
def readPositive (digits : List Char) : Except NumeralError Int :=
  (readDigits 2147483647 .tooLarge digits 0).map fun n => (n : Int)

/-- Reads the digits of a numeral with a minus sign, down to `-2 ^ 31`. -/
def readNegative (digits : List Char) : Except NumeralError Int :=
  (readDigits 2147483648 .tooSmall digits 0).map fun n => -(n : Int)

/-- The integer that the characters write, with a sign in front of its digits or without. -/
def readInt : List Char → Except NumeralError Int
  | [] => .error .empty
  | ['+'] => .error .invalidDigit
  | ['-'] => .error .invalidDigit
  | '+' :: digits => readPositive digits
  | '-' :: digits => readNegative digits
  | digits => readPositive digits

/-- The integer that `text` writes. -/
def readInt32 (text : String) : Except NumeralError Int32 :=
  (readInt text.toList).map Int32.ofInt

example : readInt "-2147483648".toList = .ok (-2147483648) := rfl

example : readInt "2147483648x".toList = .error .tooLarge := rfl

example : readInt "+".toList = .error .invalidDigit ∧ readInt "+007".toList = .ok 7 := ⟨rfl, rfl⟩

end TurtleGraphics.Text
