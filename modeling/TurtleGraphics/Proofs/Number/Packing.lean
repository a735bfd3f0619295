import Mathlib
import TurtleGraphics.Number.Double

/-!
# The bits of a double

A double is 64 bits, and its arithmetic is that of an `UnpackedFloat`: a sign, a mantissa and an
exponent, in numbers without a bound. `Canonical` says which values have bits, when they are not too
large. A result is packed when it is in this form already, so all that packing does is to turn what
is too large into an infinity (`held`).

* `canonical_unpack`: what a double unpacks to is canonical;
* `Canonical.exists_unpack`: bits that a canonical value comes from;
* `Canonical.unpack_pack`: a value that is packed unpacks to what a double holds of it;
* `eq_negativeZero_iff`: the double that unpacks to the negative zero.
-/

namespace TurtleGraphics.Number

open Float.Model
open Float.Model.UnpackedFloat

theorem exponentBias_binary64 : Format.binary64.exponentBias = 1023 := rfl

theorem toNat_one_append (b : BitVec 52) : (1#1 ++ b).toNat = 2 ^ 52 + b.toNat := by
  rw [BitVec.toNat_append, ← Nat.shiftLeft_add_eq_or_of_lt b.isLt]
  rfl

/-- A value that is `.notANumber`, infinite, zero, or finite in the form that a `Float` has: at most
53 bits above the least exponent, which may be too large for one. -/
inductive Canonical : UnpackedFloat → Prop
  | notANumber : Canonical .notANumber
  | infinity (s : Sign) : Canonical (.infinity s)
  | zero (s : Sign) : Canonical (.zero s)
  | subnormal (s : Sign) (m : Nat) (h : 0 < m) (lt : m < 2 ^ 52) :
    Canonical (.finite s m (-1074) h)
  | normal (s : Sign) (m : Nat) (e : Int) (h : 0 < m) (le : 2 ^ 52 ≤ m) (lt : m < 2 ^ 53)
    (least : -1074 ≤ e) : Canonical (.finite s m e h)

/-- What a `Float` can hold of a value: one with an exponent above 971 becomes `.infinity`. -/
def held : UnpackedFloat → UnpackedFloat
  | .finite s m e h => if 971 < e then .infinity s else .finite s m e h
  | u => u

/-! ## Unpacking -/

theorem canonical_unpack (x : Float.Model) : Canonical x.unpack := by
  show Canonical (UnpackedFloat.unpack .binary64 x.toBits.toBitVec)
  fun_cases UnpackedFloat.unpack .binary64 x.toBits.toBitVec with
  | case1 => exact .infinity _
  | case2 => exact .notANumber
  | case3 => exact .zero _
  | case4 m e d _ s _ he hm =>
    have hd : d + 1 = -1074 := by simp [d, he, exponentBias_binary64]
    rw [hd]
    exact .subnormal s m.toNat _ m.isLt
  | case5 m e d _ s he h0 =>
    have hp : 0 < e.toNat := (BitVec.toNat_pos e).2 ((BitVec.pos_iff_ne_zero e).2 h0)
    have hd : d = e.toNat - 1075 := rfl
    have hm : (1#1 ++ m).toNat = 2 ^ 52 + m.toNat := toNat_one_append m
    have hlt : m.toNat < 2 ^ 52 := m.isLt
    exact .normal s _ d _ (by omega) (by omega) (by omega)

theorem unpack_packedInfinity (s : Sign) :
    UnpackedFloat.unpack .binary64 (packedInfinity .binary64 s) = .infinity s := by
  cases s <;> rfl

theorem unpack_subnormal (s : Sign) {m : BitVec 52} (h : 0 < m.toNat) :
    UnpackedFloat.unpack .binary64 (packComponents .binary64 s 0#11 m) =
      .finite s m.toNat (-1074) h := by
  have hm : m ≠ 0#52 := by
    rintro rfl
    exact absurd h (by decide)
  simp [UnpackedFloat.unpack, hm, exponentBias_binary64]

theorem unpack_normal (s : Sign) {e : BitVec 11} (m : BitVec 52) (h0 : e ≠ 0#11) (h1 : e ≠ -1#11) :
    UnpackedFloat.unpack .binary64 (packComponents .binary64 s e m) =
      .finite s (2 ^ 52 + m.toNat) (e.toNat - 1075) (by omega) := by
  simp only [UnpackedFloat.unpack, unpackMantissa_packComponents, unpackExponent_packComponents,
    unpackSign_packComponents, Sign.ofBitVec_toBitVec, toNat_one_append]
  rw [if_neg h1, if_neg h0]
  rfl

/-! ## Packing -/

theorem valid_packComponents (s : Sign) {e : BitVec 11} {m : BitVec 52} (h : e ≠ -1#11 ∨ m = 0) :
    Format.binary64.Valid (packComponents .binary64 s e m) := by
  refine ⟨fun he hm => ?_⟩
  rw [unpackExponent_packComponents] at he
  rw [unpackMantissa_packComponents] at hm
  exact absurd h (by simp [he, hm])

theorem Canonical.exists_unpack {u : UnpackedFloat} (h : Canonical u) :
    ∃ b, Format.binary64.Valid b ∧ UnpackedFloat.unpack .binary64 b = held u := by
  cases h with
  | notANumber => exact ⟨packedNaN .binary64, ⟨fun _ _ => rfl⟩, unpack_packedNaN⟩
  | infinity s => exact ⟨_, valid_packComponents s (.inr rfl), unpack_packedInfinity s⟩
  | zero s => exact ⟨_, valid_packComponents s (.inr rfl), unpack_packedZero⟩
  | subnormal s m h lt =>
    obtain ⟨m, rfl⟩ : ∃ v : BitVec 52, m = v.toNat := ⟨BitVec.ofNat 52 m, by simp; omega⟩
    exact ⟨_, valid_packComponents s (.inl (by decide)), unpack_subnormal s h⟩
  | normal s m e h le lt least =>
    by_cases he : 971 < e
    · rw [held, if_pos he]
      exact ⟨_, valid_packComponents s (.inr rfl), unpack_packedInfinity s⟩
    · obtain ⟨m, rfl⟩ : ∃ v : BitVec 52, m = 2 ^ 52 + v.toNat :=
        ⟨BitVec.ofNat 52 (m - 2 ^ 52), by simp; omega⟩
      obtain ⟨e, rfl⟩ : ∃ v : BitVec 11, e = v.toNat - 1075 :=
        ⟨BitVec.ofNat 11 (e + 1075).toNat, by simp; omega⟩
      have h0 : e ≠ 0#11 := by
        rintro rfl
        simp at least
      have h1 : e ≠ -1#11 := by
        rintro rfl
        simp at he
      rw [held, if_neg he]
      exact ⟨_, valid_packComponents s (.inl h1), unpack_normal s m h0 h1⟩

theorem pack_held (u : UnpackedFloat) :
    UnpackedFloat.pack .binary64 (held u) = UnpackedFloat.pack .binary64 u := by
  cases u with
  | finite s m e h =>
    by_cases he : 971 < e
    · have hb : 2047 ≤ (e + (Format.binary64.exponentBias : Int) + (52 : Nat)).toNat := by
        rw [exponentBias_binary64]
        omega
      simp only [held, if_pos he, UnpackedFloat.pack]
      rw [if_pos (by omega)]
    · rw [held, if_neg he]
  | _ => rfl

/-- `pack` loses nothing of a `Canonical` value but what `held` drops. -/
theorem Canonical.unpack_pack {u : UnpackedFloat} (h : Canonical u) :
    (Float.Model.pack u).unpack = held u := by
  obtain ⟨b, hv, hb⟩ := h.exists_unpack
  show UnpackedFloat.unpack .binary64 (UnpackedFloat.pack .binary64 u) = held u
  rw [← pack_held, ← hb, pack_unpack_of_valid hv]

theorem eq_negativeZero_iff {x : Float} : x = -0.0 ↔ x.toModel.unpack = .zero .negative := by
  rw [← Float.toBits_inj, ← UInt64.toBitVec_inj]
  exact (unpack_eq_zero_iff_of_valid x.toModel.valid).symm

end TurtleGraphics.Number
