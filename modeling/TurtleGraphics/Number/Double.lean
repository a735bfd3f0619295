/-!
# The value of a double

`value` reads the bits of a `Float`. Every finite double is a multiple of the least positive one, so
its magnitude is given as a natural number in that unit, of which `unitsPerOne` make one. `smaller`
and `larger` choose between two doubles, and `ofInt32` is the double equal to an integer.
-/

namespace TurtleGraphics.Number

/-- What a double stands for. The magnitude of a finite one is counted in units of `2 ^ (-1074)`. -/
inductive Value where
  | nan
  | infinite (negative : Bool)
  | finite (negative : Bool) (units : Nat)
  deriving DecidableEq, Repr

/-- The number of units of `2 ^ (-1074)` that make one. -/
def unitsPerOne : Nat := Nat.pow 2 1074

/-- The value of 64 `bits`: a sign, an exponent of eleven bits and a fraction of fifty-two. -/
def Value.ofBits (bits : Nat) : Value :=
  let negative := decide (Nat.pow 2 63 ≤ bits)
  let exponent := bits / Nat.pow 2 52 % Nat.pow 2 11
  let fraction := bits % Nat.pow 2 52
  if exponent = 2047 then
    if fraction = 0 then .infinite negative else .nan
  else if exponent = 0 then .finite negative fraction
  else .finite negative ((Nat.pow 2 52 + fraction) * Nat.pow 2 (exponent - 1))

def value (x : Float) : Value :=
  Value.ofBits x.toBits.toNat

/-- The double equal to `n`. -/
def ofInt32 (n : Int32) : Float :=
  Float.ofInt n.toInt

/-- The smaller of two doubles, and `x` if neither is. One that is not a number gives way. -/
def smaller (x y : Float) : Float :=
  if x.isNaN then y else if y < x then y else x

/-- The larger of two doubles, and `x` if neither is. One that is not a number gives way. -/
def larger (x y : Float) : Float :=
  if x.isNaN then y else if x < y then y else x

example : Value.ofBits 0x3ff0000000000000 = .finite false unitsPerOne := by decide +kernel

example : Value.ofBits 0x8000000000000000 = .finite true 0 := by decide +kernel

end TurtleGraphics.Number
