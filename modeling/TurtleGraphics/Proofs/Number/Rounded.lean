import TurtleGraphics.Proofs.Number.Packing

/-!
# Rounding to a double

The arithmetic of doubles computes with mantissas of any length and rounds at the end. A mantissa is
`Placed` if its exponent is not above the one it gets in a double, and all that is rounded has been
put in place before. Then rounding drops the bits behind the first 53, so it cannot end at zero.

* `roundWithAccuracy_eq`: rounding in two shifts;
* `Placed.exists_roundWithAccuracy`: the result is not zero, and in the form of a double;
* `Canonical.roundWithAccuracy_exact`: rounding changes nothing that a double has.
-/

namespace TurtleGraphics.Number

open Float.Model
open Float.Model.UnpackedFloat

/-- A mantissa `m` that a `Float` could not hold with an exponent below `e`: it has 53 bits or more,
or `e` is the least exponent. -/
structure Placed (m : Nat) (e : Int) : Prop where
  pos : 0 < m
  least : -1074 ≤ e
  full : 2 ^ 52 ≤ m ∨ e = -1074

/-! ## Shifts -/

theorem log2_eq {m : Nat} (hl : 2 ^ 52 ≤ m) (hu : m < 2 ^ 53) : m.log2 = 52 :=
  (Nat.log2_eq_iff (by omega)).2 ⟨hl, hu⟩

theorem targetExponent_eq (m : Nat) (e : Int) :
    Format.binary64.targetExponent (totalExponent m e) = max (m.log2 + e - 52) (-1074) := by
  have hb : Format.binary64.mantissaBits = 53 := rfl
  have he : Format.binary64.minExponent = -1074 := by decide
  simp only [Format.targetExponent, totalExponent, hb, he]
  omega

theorem mantissa_shiftRight (em : ExtendedMantissa) (k : Nat) :
    (em >>> k).mantissa = em.mantissa / 2 ^ k := by
  induction k with
  | zero => exact (Nat.div_one _).symm
  | succ k ih =>
    show (em >>> k).mantissa / 2 = em.mantissa / 2 ^ (k + 1)
    rw [ih, Nat.div_div_eq_div_mul, Nat.pow_succ]

theorem shiftRight_exact (m k : Nat) :
    ExtendedMantissa.ofMantissaAndAccuracy (m * 2 ^ k) .exact >>> k =
      ExtendedMantissa.ofMantissaAndAccuracy m .exact := by
  induction k generalizing m with
  | zero =>
    rw [Nat.pow_zero, Nat.mul_one]
    rfl
  | succ k ih =>
    have ih := ih (m * 2)
    rw [Nat.mul_assoc, ← Nat.pow_succ'] at ih
    show (ExtendedMantissa.ofMantissaAndAccuracy (m * 2 ^ (k + 1)) .exact >>> k).shiftRightOne = _
    rw [ih]
    -- the last of the bits that are shifted out
    simp [ExtendedMantissa.ofMantissaAndAccuracy, ExtendedMantissa.shiftRightOne]

theorem mantissa_ofMantissaAndAccuracy (m : Nat) (a : Accuracy) :
    (ExtendedMantissa.ofMantissaAndAccuracy m a).mantissa = m := by
  cases a with
  | exact => rfl
  | inexact o => cases o <;> rfl

theorem le_roundToNearestEven (m : Nat) (a : Accuracy) : m ≤ a.roundToNearestEven m := by
  cases a with
  | exact => exact Nat.le_refl m
  | inexact o =>
    cases o with
    | lt => exact Nat.le_refl m
    | eq => exact Nat.le_add_right m _
    | gt => exact Nat.le_succ m

theorem log2_mul_two_pow {m : Nat} (h : 0 < m) (k : Nat) : (m * 2 ^ k).log2 = m.log2 + k := by
  have h0 : m ≠ 0 := Nat.pos_iff_ne_zero.1 h
  have hk : 0 < 2 ^ k := Nat.two_pow_pos k
  rw [Nat.log2_eq_iff (Nat.mul_ne_zero h0 (Nat.pos_iff_ne_zero.1 hk)), Nat.pow_add,
    Nat.add_right_comm, Nat.pow_add]
  exact ⟨Nat.mul_le_mul_right _ (Nat.log2_self_le h0),
    Nat.mul_lt_mul_of_pos_right Nat.lt_log2_self hk⟩

/-! ## Rounding -/

/-- The value with the mantissa `m`, which is `.zero` if `m` is. -/
def ofMantissa (s : Sign) (m : Nat) (e : Int) : UnpackedFloat :=
  if h : m = 0 then .zero s else .finite s m e (Nat.pos_of_ne_zero h)

theorem ofMantissa_of_pos {m : Nat} (h : 0 < m) (s : Sign) (e : Int) :
    ofMantissa s m e = .finite s m e h :=
  dif_neg (Nat.pos_iff_ne_zero.1 h)

/-- `roundWithAccuracy` shifts and rounds `m`, and then shifts once more: rounding up may have added
a bit. -/
theorem roundWithAccuracy_eq (s : Sign) (m : Nat) (e : Int) (a : Accuracy) :
    roundWithAccuracy .binary64 s m e a =
      let r := shiftToTargetExponent .binary64 m e a
      let f := shiftToTargetExponent .binary64 r.1.roundedMantissa r.2 .exact
      ofMantissa s f.1.mantissa f.2 :=
  rfl

namespace Placed

variable {m : Nat} {e : Int}

theorem toNat_targetExponent_sub (h : Placed m e) :
    (Format.binary64.targetExponent (totalExponent m e) - e).toNat = m.log2 - 52 := by
  have hl := h.least
  rw [targetExponent_eq]
  rcases h.full with hm | he
  · have hm : 52 ≤ m.log2 := (Nat.le_log2 (by omega)).2 hm
    omega
  · omega

theorem div_lt (m : Nat) : m / 2 ^ (m.log2 - 52) < 2 ^ 53 := by
  rw [Nat.div_lt_iff_lt_mul (Nat.two_pow_pos _), ← Nat.pow_add]
  exact Nat.lt_of_lt_of_le Nat.lt_log2_self (Nat.pow_le_pow_right (by decide) (by omega))

theorem div (h : Placed m e) : Placed (m / 2 ^ (m.log2 - 52)) (e + (m.log2 - 52 : Nat)) := by
  have hl := h.least
  rcases Nat.lt_or_ge m.log2 52 with hm | hm
  · rw [Nat.sub_eq_zero_of_le (Nat.le_of_lt hm), Nat.pow_zero, Nat.div_one]
    simpa using h
  · have hq : 2 ^ 52 ≤ m / 2 ^ (m.log2 - 52) := by
      rw [Nat.le_div_iff_mul_le (Nat.two_pow_pos _), ← Nat.pow_add, Nat.add_sub_cancel' hm]
      exact Nat.log2_self_le (Nat.pos_iff_ne_zero.1 h.pos)
    exact ⟨by omega, by omega, .inl hq⟩

theorem mono (h : Placed m e) {n : Nat} (hn : m ≤ n) : Placed n e := by
  obtain ⟨hp, hl, hf⟩ := h
  exact ⟨by omega, hl, by omega⟩

theorem canonical (h : Placed m e) (hm : m < 2 ^ 53) (s : Sign) :
    Canonical (.finite s m e h.pos) := by
  obtain ⟨hp, hl, hf⟩ := h
  by_cases hn : 2 ^ 52 ≤ m
  · exact .normal s m e _ hn hm hl
  · obtain rfl := hf.resolve_left hn
    exact .subnormal s m _ (by omega)

/-- `roundWithAccuracy` gives a `Placed` mantissa 53 bits and no zero, since rounding makes a
mantissa that was shifted no smaller. -/
theorem exists_roundWithAccuracy (h : Placed m e) (s : Sign) (a : Accuracy) :
    ∃ m' e' h', roundWithAccuracy .binary64 s m e a = .finite s m' e' h' ∧
      Canonical (.finite s m' e' h') := by
  have hp : Placed (ExtendedMantissa.ofMantissaAndAccuracy m a >>> (m.log2 - 52)).roundedMantissa
      (e + (m.log2 - 52 : Nat)) := by
    apply h.div.mono
    rw [ExtendedMantissa.roundedMantissa, mantissa_shiftRight, mantissa_ofMantissaAndAccuracy]
    exact le_roundToNearestEven _ _
  simp only [roundWithAccuracy_eq, shiftToTargetExponent, shiftToExponent, mantissa_shiftRight,
    mantissa_ofMantissaAndAccuracy, h.toNat_targetExponent_sub, hp.toNat_targetExponent_sub]
  exact ⟨_, _, hp.div.pos, ofMantissa_of_pos _ _ _, hp.div.canonical (div_lt _) s⟩

end Placed

/-- `k` zeros behind the mantissa of a `Canonical` value are rounded away again. -/
theorem Canonical.roundWithAccuracy_exact {s : Sign} {m : Nat} {e : Int} {h : 0 < m}
    (hc : Canonical (.finite s m e h)) (k : Nat) :
    roundWithAccuracy .binary64 s (m * 2 ^ k) (e - k) .exact = .finite s m e h := by
  have ht : max ((m.log2 : Int) + e - 52) (-1074) = e := by
    cases hc with
    | subnormal s m h lt =>
      have hl := (Nat.log2_lt (Nat.pos_iff_ne_zero.1 h)).2 lt
      omega
    | normal s m e h le lt least =>
      rw [log2_eq le lt]
      omega
  -- the first shift drops the zeros, and the second one has nothing left to do
  have h1 : (Format.binary64.targetExponent (totalExponent (m * 2 ^ k) (e - k)) - (e - k)).toNat =
      k := by
    rw [targetExponent_eq, log2_mul_two_pow h]
    push_cast
    omega
  have h2 : (Format.binary64.targetExponent (totalExponent m (e - k + k)) - (e - k + k)).toNat =
      0 := by
    rw [Int.sub_add_cancel, targetExponent_eq, ht, Int.sub_self]
    rfl
  have hr : (ExtendedMantissa.ofMantissaAndAccuracy m .exact).roundedMantissa = m := rfl
  simp only [roundWithAccuracy_eq, shiftToTargetExponent, shiftToExponent, h1, shiftRight_exact, hr,
    h2, mantissa_shiftRight, mantissa_ofMantissaAndAccuracy]
  rw [Nat.pow_zero, Nat.div_one, ofMantissa_of_pos h, Int.sub_add_cancel, Int.natCast_zero,
    Int.add_zero]

end TurtleGraphics.Number
