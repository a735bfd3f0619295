import TurtleGraphics.Proofs.Number.Rounded

/-!
# Sums of doubles

`IsSum` and `IsOffset` hold what matters of a sum or a difference, for values and for doubles: a
number and a finite one give a number, and the negative zero comes only from the negative zero. The
second is true because an exact sum of zero has the positive sign, and any other sum is not rounded
to zero. Integers of 32 bits are doubles as they are, so they are finite and not the negative zero.

* `exists_round`: rounding does not lead to zero;
* `Canonical.isSum_add`: the sum of two values, case by case;
* `isOffset_add`, `isOffset_sub`: sums and differences of doubles;
* `unpack_ofInt32`, `isFinite_ofInt32`, `ofInt32_ne_negativeZero`: integers.
-/

namespace TurtleGraphics.Number

open Float.Model
open Float.Model.UnpackedFloat

/-! ## Rounding exact results -/

theorem toNat_sub_targetExponent (m : Nat) (e : Int) (he : -1074 ≤ e) :
    (e - Format.binary64.targetExponent (totalExponent m e)).toNat =
      min (52 - m.log2) (e + 1074).toNat := by
  rw [targetExponent_eq]
  omega

/-- `round` writes zeros behind `m` until it is `Placed`, and then rounds it. -/
theorem exists_round_eq {m : Nat} {e : Int} (hm : 0 < m) (he : -1074 ≤ e) (s : Sign) :
    ∃ k : Nat, k ≤ 52 - m.log2 ∧ Placed (m * 2 ^ k) (e - k) ∧
      UnpackedFloat.round .binary64 s m e =
        roundWithAccuracy .binary64 s (m * 2 ^ k) (e - k) .exact := by
  refine ⟨min (52 - m.log2) (e + 1074).toNat, Nat.min_le_left .., ?_, ?_⟩
  · refine ⟨Nat.mul_pos hm (Nat.two_pow_pos _), by omega, ?_⟩
    rcases Nat.lt_or_ge (e + 1074).toNat (52 - m.log2) with hk | hk
    · right
      omega
    · left
      calc 2 ^ 52 ≤ 2 ^ (m.log2 + (52 - m.log2)) := Nat.pow_le_pow_right (by decide) (by omega)
        _ = 2 ^ m.log2 * 2 ^ (52 - m.log2) := Nat.pow_add ..
        _ ≤ m * 2 ^ (52 - m.log2) :=
          Nat.mul_le_mul_right _ (Nat.log2_self_le (Nat.pos_iff_ne_zero.1 hm))
        _ = m * 2 ^ min (52 - m.log2) (e + 1074).toNat := by rw [Nat.min_eq_left hk]
  · rw [UnpackedFloat.round, decreaseExponent, toNat_sub_targetExponent m e he, Nat.shiftLeft_eq]

/-- Above the least exponent, `round` gives a `Canonical` value that is no zero. -/
theorem exists_round {m : Nat} {e : Int} (hm : 0 < m) (he : -1074 ≤ e) (s : Sign) :
    ∃ m' e' h', UnpackedFloat.round .binary64 s m e = .finite s m' e' h' ∧
      Canonical (.finite s m' e' h') := by
  obtain ⟨k, -, hp, hr⟩ := exists_round_eq hm he s
  rw [hr]
  exact hp.exists_roundWithAccuracy s .exact

theorem exists_normalize (m : Int) {e : Int} (he : -1074 ≤ e) :
    UnpackedFloat.normalize .binary64 m e .positive = .zero .positive ∨
    ∃ s m' e' h', UnpackedFloat.normalize .binary64 m e .positive = .finite s m' e' h' ∧
      Canonical (.finite s m' e' h') := by
  rcases Int.lt_trichotomy m 0 with hm | rfl | hm
  · have hc : compare m 0 = .lt := Int.compare_eq_lt.2 hm
    rw [UnpackedFloat.normalize, hc]
    exact .inr ⟨_, exists_round (by omega) he .negative⟩
  · exact .inl rfl
  · have hc : compare m 0 = .gt := Int.compare_eq_gt.2 hm
    rw [UnpackedFloat.normalize, hc]
    exact .inr ⟨_, exists_round (by omega) he .positive⟩

/-! ## The sum of two values -/

/-- What the order of numbers needs of `w`, the sum of `u` and `v`. -/
structure IsSum (u v w : UnpackedFloat) : Prop where
  canonical : Canonical w
  /-- A number `u` and a finite `v` give a number. -/
  isNaN : u.isNaN = false → v.isFinite = true → w.isNaN = false
  /-- `w` is the negative zero only if `u` is. -/
  negative : w = .zero .negative → u = .zero .negative

theorem isNaN_of_isFinite {u : UnpackedFloat} (h : u.isFinite = true) : u.isNaN = false := by
  cases u with
  | notANumber => exact absurd h Bool.false_ne_true
  | infinity | zero | finite => rfl

namespace Canonical

variable {u v : UnpackedFloat} {s : Sign} {m : Nat} {e : Int} {h : 0 < m}

theorem least_le (hc : Canonical (.finite s m e h)) : -1074 ≤ e := by
  cases hc with
  | subnormal => exact Int.le_refl _
  | normal s m e h le lt least => exact least

theorem neg (hc : Canonical u) : Canonical u.neg := by
  cases hc with
  | notANumber => exact .notANumber
  | infinity s => exact .infinity _
  | zero s => exact .zero _
  | subnormal s m h lt => exact .subnormal _ m h lt
  | normal s m e h le lt least => exact .normal _ m e h le lt least

theorem isSum_add (hu : Canonical u) (hv : Canonical v) :
    IsSum u v (UnpackedFloat.add .binary64 u v) := by
  fun_cases UnpackedFloat.add .binary64 u v with
  | case1 | case2 => exact ⟨.notANumber, nofun, nofun⟩
  -- an infinity on one side or both
  | case3 s s' => exact ⟨hu, fun _ _ => rfl, nofun⟩
  | case4 s s' => exact ⟨.notANumber, nofun, nofun⟩
  | case5 s => exact ⟨hu, fun _ _ => rfl, nofun⟩
  | case6 s => exact ⟨hv, fun _ _ => rfl, nofun⟩
  -- a zero on both sides, of one sign or of two, and then on one side only
  | case7 s s' => exact ⟨hu, fun _ _ => rfl, id⟩
  | case8 s s' => exact ⟨.zero _, fun _ _ => rfl, nofun⟩
  | case9 s _ _ _ hz => exact ⟨hv, fun _ => isNaN_of_isFinite, fun h => absurd h (hz _)⟩
  | case10 s => exact ⟨hu, fun h _ => h, id⟩
  | case11 =>
    -- two finite values, whose exact sum is counted in units of the smaller exponent
    obtain hz | ⟨t, n, d, hn, hf, hc⟩ :=
      exists_normalize _ (Int.le_min.2 ⟨hu.least_le, hv.least_le⟩)
    · rw [hz]
      exact ⟨.zero _, fun _ _ => rfl, nofun⟩
    · rw [hf]
      exact ⟨hc, fun _ _ => rfl, nofun⟩

end Canonical

theorem sub_eq_add_neg (u v : UnpackedFloat) :
    UnpackedFloat.sub .binary64 u v = UnpackedFloat.add .binary64 u v.neg := by
  cases u with
  | notANumber => rfl
  | infinity s => cases v <;> rfl
  | zero s => cases v <;> rfl
  | finite s m e h =>
    cases v with
    | notANumber | infinity | zero => rfl
    | finite s' m' e' h' =>
      have hs (n : Int) : (-s').apply n = -s'.apply n := by
        cases s' with
        | negative => exact (Int.neg_neg n).symm
        | positive => rfl
      simp only [UnpackedFloat.sub, UnpackedFloat.add, UnpackedFloat.neg, hs, Int.sub_eq_add_neg]

theorem isFinite_neg (u : UnpackedFloat) : u.neg.isFinite = u.isFinite := by
  cases u <;> rfl

/-! ## Doubles -/

theorem isNaN_held (u : UnpackedFloat) : (held u).isNaN = u.isNaN := by
  cases u with
  | finite s m e h =>
    rw [held]
    split <;> rfl
  | notANumber | infinity | zero => rfl

theorem held_eq_zero_iff {u : UnpackedFloat} {s : Sign} : held u = .zero s ↔ u = .zero s := by
  cases u with
  | finite s m e h =>
    rw [held]
    split <;> simp
  | notANumber | infinity | zero => rfl

/-- `z` comes from `x` by adding or subtracting `y`. -/
structure IsOffset (x y z : Float) : Prop where
  isNaN : x.isNaN = false → y.isFinite = true → z.isNaN = false
  ne_negativeZero : x ≠ -0.0 → z ≠ -0.0

theorem IsSum.isOffset {x y z : Float} {v w : UnpackedFloat} (h : IsSum x.toModel.unpack v w)
    (hv : v.isFinite = y.isFinite) (hz : z.toModel.unpack = held w) : IsOffset x y z where
  isNaN hx hy := by
    show z.toModel.unpack.isNaN = false
    rw [hz, isNaN_held]
    exact h.isNaN hx (hv.trans hy)
  ne_negativeZero hx := by
    rw [ne_eq, eq_negativeZero_iff] at hx ⊢
    rw [hz, held_eq_zero_iff]
    exact fun hw => hx (h.negative hw)

theorem isOffset_add (x y : Float) : IsOffset x y (x + y) := by
  have hs := (canonical_unpack x.toModel).isSum_add (canonical_unpack y.toModel)
  exact hs.isOffset rfl hs.canonical.unpack_pack

theorem isOffset_sub (x y : Float) : IsOffset x y (x - y) := by
  have hs := (canonical_unpack x.toModel).isSum_add (canonical_unpack y.toModel).neg
  rw [← sub_eq_add_neg] at hs
  exact hs.isOffset (isFinite_neg _) hs.canonical.unpack_pack

/-! ## Integers -/

/-- `round` is exact below `2 ^ 53`. -/
theorem exists_round_exact {m : Nat} {e : Int} (hm : 0 < m) (hl : m < 2 ^ 53) (he : -1074 ≤ e)
    (s : Sign) :
    ∃ (k : Nat) (h : 0 < m * 2 ^ k), Canonical (.finite s (m * 2 ^ k) (e - k) h) ∧
      UnpackedFloat.round .binary64 s m e = .finite s (m * 2 ^ k) (e - k) h := by
  obtain ⟨k, hk, hp, hr⟩ := exists_round_eq hm he s
  have hlog : (m * 2 ^ k).log2 < 53 := by
    have hm53 := (Nat.log2_lt (Nat.pos_iff_ne_zero.1 hm)).2 hl
    rw [log2_mul_two_pow hm]
    omega
  have hc := hp.canonical ((Nat.log2_lt (Nat.pos_iff_ne_zero.1 hp.pos)).1 hlog) s
  have hx := hc.roundWithAccuracy_exact 0
  rw [Nat.pow_zero, Nat.mul_one, Int.natCast_zero, Int.sub_zero] at hx
  exact ⟨k, hp.pos, hc, hr.trans hx⟩

/-- A product with one is exact: `mul` drops the zeros that the mantissa `2 ^ 52` has added. -/
theorem Canonical.mul_one {s : Sign} {m : Nat} {e : Int} {h : 0 < m}
    (hc : Canonical (.finite s m e h)) :
    UnpackedFloat.mul .binary64 (.finite s m e h) (.finite .positive (2 ^ 52) (-52) (by decide)) =
      .finite s m e h := by
  have hs : s * .positive = s := by cases s <;> rfl
  rw [UnpackedFloat.mul, hs]
  exact hc.roundWithAccuracy_exact 52

theorem toModel_toFloat {n : Nat} (hn : 0 < n) (hl : n < 2 ^ 53) :
    n.toUInt64.toFloat.toModel =
      Float.Model.pack (UnpackedFloat.round .binary64 .positive n 0) := by
  have hw : n.toUInt64.toNat = n := by
    rw [Nat.toUInt64, UInt64.toNat_ofNat']
    omega
  have hc : compare (n : Int) 0 = .gt := Int.compare_eq_gt.2 (by omega)
  show Float.Model.pack (UnpackedFloat.normalize .binary64 n.toUInt64.toNat 0 .positive) = _
  rw [hw, UnpackedFloat.normalize, hc]
  rfl

/-- `Float.ofNat` reads `n` like a literal, with a power of ten as a factor. -/
theorem ofNat_eq_mul {n : Nat} (hl : n < 2 ^ 53) : Float.ofNat n = n.toUInt64.toFloat * 1.0 := by
  show Float.ofScientific n false 0 = _
  rw [Float.ofScientific, dif_pos ⟨hl, by decide⟩]
  rfl

theorem unpack_mul (x y : Float) :
    (x * y).toModel.unpack =
      (Float.Model.pack (UnpackedFloat.mul .binary64 x.toModel.unpack y.toModel.unpack)).unpack :=
  rfl

theorem unpack_one :
    (1.0 : Float).toModel.unpack = .finite .positive (2 ^ 52) (-52) (by decide) := by
  rfl

/-- `Float.ofNat` holds a number below `2 ^ 53` as it is. -/
theorem exists_unpack_ofNat {n : Nat} (hn : 0 < n) (hl : n < 2 ^ 53) :
    ∃ (k : Nat) (h : 0 < n * 2 ^ k), Canonical (.finite .positive (n * 2 ^ k) (-k) h) ∧
      (Float.ofNat n).toModel.unpack = .finite .positive (n * 2 ^ k) (-k) h := by
  obtain ⟨k, h, hc, hr⟩ := exists_round_exact hn hl (e := 0) (by decide) .positive
  rw [Int.zero_sub] at hc hr
  have hh : held (.finite .positive (n * 2 ^ k) (-k) h) = .finite .positive (n * 2 ^ k) (-k) h :=
    if_neg (by omega)
  have hi : n.toUInt64.toFloat.toModel.unpack = .finite .positive (n * 2 ^ k) (-k) h := by
    rw [toModel_toFloat hn hl, hr, hc.unpack_pack, hh]
  refine ⟨k, h, hc, ?_⟩
  rw [ofNat_eq_mul hl, unpack_mul, hi, unpack_one, hc.mul_one, hc.unpack_pack, hh]

/-- `ofInt32` holds an integer as it is, and zero as the positive zero. -/
theorem unpack_ofInt32 (n : Int32) :
    (ofInt32 n).toModel.unpack = .zero .positive ∨
    ∃ (s : Sign) (k : Nat) (h : 0 < n.toInt.natAbs * 2 ^ k),
      (ofInt32 n).toModel.unpack = .finite s (n.toInt.natAbs * 2 ^ k) (-k) h := by
  have hl : n.toInt.natAbs < 2 ^ 53 := by
    have hlo := n.le_toInt
    have hhi := n.toInt_lt
    omega
  rw [ofInt32]
  generalize n.toInt = i at hl ⊢
  cases i with
  | ofNat m =>
    rcases Nat.eq_zero_or_pos m with rfl | hm
    · exact .inl rfl
    · obtain ⟨k, h, -, hu⟩ := exists_unpack_ofNat hm hl
      exact .inr ⟨.positive, k, h, hu⟩
  | negSucc m =>
    obtain ⟨k, h, hc, hu⟩ := exists_unpack_ofNat (Nat.succ_pos m) hl
    have hn : (Float.ofInt (.negSucc m)).toModel.unpack =
        (Float.Model.pack (Float.ofNat (m + 1)).toModel.unpack.neg).unpack := rfl
    refine .inr ⟨.negative, k, h, ?_⟩
    rw [hn, hu, hc.neg.unpack_pack]
    exact if_neg (by omega)

theorem isFinite_ofInt32 (n : Int32) : (ofInt32 n).isFinite = true := by
  show (ofInt32 n).toModel.unpack.isFinite = true
  rcases unpack_ofInt32 n with hz | ⟨s, k, h, hf⟩
  · rw [hz]
    rfl
  · rw [hf]
    rfl

theorem ofInt32_ne_negativeZero (n : Int32) : ofInt32 n ≠ -0.0 := by
  rw [ne_eq, eq_negativeZero_iff]
  rcases unpack_ofInt32 n with hz | ⟨s, k, h, hf⟩
  · rw [hz]
    nofun
  · rw [hf]
    nofun

end TurtleGraphics.Number
