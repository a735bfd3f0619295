import TurtleGraphics.Proofs.Number.Packing

/-!
# The order of doubles

Two doubles that are numbers are compared by their `rank`, a place in a linear order. Two of the
same rank are equal or both a zero, so `smaller` and `larger` choose one each of two numbers, unless
these are the two zeros: then both choose the first.

* `compare_eq`: a comparison is that of the ranks;
* `lt_iff`, `le_iff`: the order of doubles;
* `eq_of_not_lt`: two doubles of one rank;
* `sorts_smaller_larger`: the smaller and the larger one.
-/

namespace TurtleGraphics.Number

open Float.Model
open Float.Model.UnpackedFloat

/-- The place of a number in the order of all numbers: first its constructor, then its exponent and
its mantissa. Both signs of `.zero` have the same `rank`. -/
def rank : UnpackedFloat → ℤ ×ₗ ℤ ×ₗ ℤ
  | .notANumber | .zero _ => toLex (0, toLex (0, 0))
  | .infinity s => toLex (s.apply 2, toLex (0, 0))
  | .finite s m e _ => toLex (s.apply 1, toLex (s.apply e, s.apply m))

theorem compare_neg_neg (a b : ℤ) : compare (-a) (-b) = (compare a b).swap := by
  rcases Int.lt_trichotomy a b with h | rfl | h
  · rw [Int.compare_eq_lt.2 h, Int.compare_eq_gt.2 (by omega)]
    rfl
  · simp
  · rw [Int.compare_eq_gt.2 h, Int.compare_eq_lt.2 (by omega)]
    rfl

theorem compare_natCast (m n : ℕ) : compare (m : ℤ) n = compare m n := by
  rcases Nat.lt_trichotomy m n with h | rfl | h
  · rw [Nat.compare_eq_lt.2 h, Int.compare_eq_lt.2 (by omega)]
  · simp
  · rw [Nat.compare_eq_gt.2 h, Int.compare_eq_gt.2 (by omega)]

theorem compare_eq {u v : UnpackedFloat} (hu : u.isNaN = false) (hv : v.isNaN = false) :
    u.compare v = some (compare (rank u) (rank v)) := by
  cases u with
  | notANumber => cases hu
  | infinity s =>
    cases v with
    | notANumber => cases hv
    | infinity s' => cases s <;> cases s' <;> rfl
    | zero s' => cases s <;> rfl
    | finite s' m' e' h' => cases s <;> cases s' <;> rfl
  | zero s =>
    cases v with
    | notANumber => cases hv
    | infinity s' => cases s' <;> rfl
    | zero s' => rfl
    | finite s' m' e' h' => cases s' <;> rfl
  | finite s m e h =>
    cases v with
    | notANumber => cases hv
    | infinity s' => cases s <;> cases s' <;> rfl
    | zero s' => cases s <;> rfl
    | finite s' m' e' h' =>
      cases s with
      | negative =>
        cases s' with
        | negative =>
          have hr : compare (rank (.finite .negative m e h)) (rank (.finite .negative m' e' h')) =
            (compare (-e) (-e')).then (compare (-(m : ℤ)) (-(m' : ℤ))) := rfl
          rw [hr, compare_neg_neg, compare_neg_neg, compare_natCast, ← Ordering.swap_then]
          rfl
        | positive => rfl
      | positive =>
        cases s' with
        | negative => rfl
        | positive =>
          have hr : compare (rank (.finite .positive m e h)) (rank (.finite .positive m' e' h')) =
            (compare e e').then (compare (m : ℤ) m') := rfl
          rw [hr, compare_natCast]
          rfl

/-! ## Doubles -/

section

variable {x y : Float}

theorem lt_iff (hx : x.isNaN = false) (hy : y.isNaN = false) :
    x < y ↔ rank x.toModel.unpack < rank y.toModel.unpack := by
  have hc : x < y ↔ (x.toModel.unpack.compare y.toModel.unpack == some .lt) = true := by
    show decide ((x.toModel.unpack.compare y.toModel.unpack == some .lt) = true) = true ↔ _
    exact decide_eq_true_iff
  rw [hc, compare_eq hx hy, beq_iff_eq, Option.some.injEq, compare_lt_iff_lt]

theorem le_iff (hx : x.isNaN = false) (hy : y.isNaN = false) :
    x ≤ y ↔ rank x.toModel.unpack ≤ rank y.toModel.unpack := by
  have hc : x ≤ y ↔ (x.toModel.unpack.compare y.toModel.unpack).any Ordering.isLE = true := by
    show decide ((x.toModel.unpack.compare y.toModel.unpack).any Ordering.isLE = true) = true ↔ _
    exact decide_eq_true_iff
  rw [hc, compare_eq hx hy, Option.any_some, ← Ordering.ne_gt_iff_isLE]
  exact compare_le_iff_le

/-- Numbers other than `-0.0` are equal if neither is below the other: only the zeros share a
`rank`. -/
theorem eq_of_not_lt (hx : x.isNaN = false) (hy : y.isNaN = false) (hxz : x ≠ -0.0)
    (hyz : y ≠ -0.0) (h : ¬ x < y) (h' : ¬ y < x) : x = y := by
  rw [lt_iff hx hy, not_lt] at h
  rw [lt_iff hy hx, not_lt] at h'
  have hc : x.toModel.unpack.compare y.toModel.unpack = some .eq := by
    rw [compare_eq hx hy, le_antisymm h' h, compare_eq_iff_eq.2 rfl]
  have hb : (x == y) = true := by
    show (x.toModel.unpack.compare y.toModel.unpack == some .eq) = true
    rw [hc]
    rfl
  obtain ⟨-, -, he | ⟨-, hz⟩ | ⟨hz, -⟩⟩ := Float.beq_iff_ne_nan_and_eq.1 hb
  · exact he
  · exact absurd hz hyz
  · exact absurd hz hxz

/-- `a` and `b` are `x` and `y`, the smaller one first. -/
structure Sorts (x y a b : Float) : Prop where
  le : a ≤ b
  eq : a = x ∧ b = y ∨ a = y ∧ b = x

theorem Sorts.eq_or_eq {a b : Float} (h : Sorts x y a b) : x = a ∨ x = b :=
  h.eq.imp (fun h => h.1.symm) (fun h => h.2.symm)

/-! ## The smaller and the larger one -/

theorem smaller_eq (x y : Float) : smaller x y = x ∨ smaller x y = y := by
  rw [smaller]
  split
  · exact .inr rfl
  · split
    · exact .inr rfl
    · exact .inl rfl

theorem larger_eq (x y : Float) : larger x y = x ∨ larger x y = y := by
  rw [larger]
  split
  · exact .inr rfl
  · split
    · exact .inr rfl
    · exact .inl rfl

theorem sorts_smaller_larger (hx : x.isNaN = false) (hy : y.isNaN = false) (hxz : x ≠ -0.0)
    (hyz : y ≠ -0.0) : Sorts x y (smaller x y) (larger x y) := by
  have hn : ¬ x.isNaN = true := Bool.eq_false_iff.1 hx
  rw [smaller, larger, if_neg hn, if_neg hn]
  by_cases hyx : y < x
  · have hr := (lt_iff hy hx).1 hyx
    rw [if_pos hyx, if_neg (mt (lt_iff hx hy).1 hr.asymm)]
    exact ⟨(le_iff hy hx).2 hr.le, .inr ⟨rfl, rfl⟩⟩
  · rw [if_neg hyx]
    by_cases hxy : x < y
    · rw [if_pos hxy]
      exact ⟨(le_iff hx hy).2 ((lt_iff hx hy).1 hxy).le, .inl ⟨rfl, rfl⟩⟩
    · rw [if_neg hxy]
      exact ⟨(le_iff hx hx).2 le_rfl, .inl ⟨rfl, eq_of_not_lt hx hy hxz hyz hxy hyx⟩⟩

end

end TurtleGraphics.Number
