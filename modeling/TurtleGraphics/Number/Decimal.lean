import TurtleGraphics.Number.Double
import TurtleGraphics.Number.Rounding

/-!
# Doubles in decimal

`oneDecimal` writes a double with one decimal place and `nearestInt64` takes it to the nearest
integer. Both round the exact value. A tie goes to the even digit in the first and away from zero in
the second.
-/

namespace TurtleGraphics.Number

/-- The sign in front of a number, if it is `negative`. -/
def signText (negative : Bool) : String :=
  if negative then "-" else ""

/-- `x` with one decimal place. The sign is kept, that of zero too. -/
def oneDecimal (x : Float) : String :=
  match value x with
  | .nan => "NaN"
  | .infinite negative => signText negative ++ "inf"
  | .finite negative units =>
    let tenths := roundDiv .even (10 * units) unitsPerOne
    signText negative ++ toString (tenths / 10) ++ "." ++ toString (tenths % 10)

/-- The integer nearest to `x`, or the end of the range that `x` lies beyond; zero if `x` is not a
number. -/
def nearestInt64 (x : Float) : Int64 :=
  match value x with
  | .nan => 0
  | .infinite negative => if negative then Int64.minValue else Int64.maxValue
  | .finite negative units =>
    let n : Int := roundDiv .away units unitsPerOne
    Int64.ofIntClamp (if negative then -n else n)

example : oneDecimal 0.25 = "0.2" ∧ oneDecimal (-0.75) = "-0.8" := by decide +kernel

end TurtleGraphics.Number
