/-!
# Rounding of quotients

`roundDiv tie num den` is the natural number nearest to `num / den`, where `tie` settles the case of
two nearest ones. `roundDiv_le` and `le_roundDiv` say that it is at most half a unit off.
-/

namespace TurtleGraphics.Number

/-- Which of two equally near numbers `roundDiv` takes. -/
inductive Tie where
  | even
  | away
  deriving DecidableEq, Repr

/-- The natural number nearest to `num / den`. -/
def roundDiv (tie : Tie) (num den : Nat) : Nat :=
  let q := num / den
  let r := 2 * (num % den)
  if r < den then q
  else if den < r then q + 1
  else match tie with
    | .even => q + q % 2
    | .away => q + 1

theorem roundDiv_le (tie : Tie) (num : Nat) {den : Nat} (hd : 0 < den) :
    2 * (den * roundDiv tie num den) ≤ 2 * num + den := by
  have h := Nat.div_add_mod num den
  have hm := Nat.mod_lt num hd
  have hs : den * (num / den + 1) = den * (num / den) + den := Nat.mul_succ ..
  have he : den * (num / den + num / den % 2) ≤ den * (num / den + 1) :=
    Nat.mul_le_mul_left den (by omega)
  dsimp only [roundDiv]
  split
  · omega
  · split
    · omega
    · cases tie <;> dsimp only <;> omega

theorem le_roundDiv (tie : Tie) (num : Nat) {den : Nat} (hd : 0 < den) :
    2 * num ≤ 2 * (den * roundDiv tie num den) + den := by
  have h := Nat.div_add_mod num den
  have hm := Nat.mod_lt num hd
  have hs : den * (num / den + 1) = den * (num / den) + den := Nat.mul_succ ..
  have he : den * (num / den) ≤ den * (num / den + num / den % 2) :=
    Nat.mul_le_mul_left den (by omega)
  dsimp only [roundDiv]
  split
  · omega
  · split
    · omega
    · cases tie <;> dsimp only <;> omega

example : roundDiv .even 5 2 = 2 ∧ roundDiv .even 7 2 = 4 ∧ roundDiv .away 5 2 = 3 := by decide

end TurtleGraphics.Number
