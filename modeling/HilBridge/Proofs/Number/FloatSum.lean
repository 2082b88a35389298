import Mathlib.Logic.Basic
import HilBridge.Proofs.Number.FloatOrder

/-!
# `HilBridge.Proofs.Number.FloatSum` — sums of finite numbers in double precision

The sum of two finite numbers can be infinite, but it is always a number: only infinities of opposite signs, or "not a
number" itself, add up to none. Rounding makes none either, and what is written as the bits of a number is read back as
one (`unpack_pack_ne`). So a sum that is moved into an interval with finite ends is finite (`isFinite_clamp_add`).
-/

namespace HilBridge.Binary64

open Float.Model (UnpackedFloat Format)
open Float.Model.UnpackedFloat (packComponents packedInfinity)

/-! ## Bits -/

theorem unpack_packedInfinity (s : UnpackedFloat.Sign) :
    UnpackedFloat.unpack .binary64 (packedInfinity .binary64 s) = .infinity s := by
  cases s <;> rfl

/-- Only the largest exponent writes anything but a finite number. -/
theorem unpack_packComponents_ne (s : UnpackedFloat.Sign) {exponent : BitVec 11} (h : exponent ≠ -1#11)
    (mantissa : BitVec 52) :
    UnpackedFloat.unpack .binary64 (packComponents .binary64 s exponent mantissa) ≠ .notANumber := by
  have hexponent : UnpackedFloat.unpackExponent (packComponents .binary64 s exponent mantissa) = exponent :=
    UnpackedFloat.unpackExponent_packComponents
  unfold UnpackedFloat.unpack
  dsimp only
  rw [hexponent, if_neg h]
  by_cases hzero : exponent = 0#11
  · rw [if_pos hzero]
    by_cases hnone : UnpackedFloat.unpackMantissa (packComponents .binary64 s exponent mantissa) = 0#52
    · rw [dif_pos hnone]
      nofun
    · rw [dif_neg hnone]
      nofun
  · rw [if_neg hzero]
    nofun

/-- The bits of a number are those of a number. -/
theorem unpack_pack_ne {x : UnpackedFloat} (h : x ≠ .notANumber) :
    UnpackedFloat.unpack .binary64 (UnpackedFloat.pack .binary64 x) ≠ .notANumber := by
  cases x with
  | notANumber => exact absurd rfl h
  | infinity s =>
    show UnpackedFloat.unpack .binary64 (packedInfinity .binary64 s) ≠ .notANumber
    rw [unpack_packedInfinity]
    nofun
  | zero s => exact unpack_packComponents_ne s (by decide) 0
  | finite s m e hm =>
    unfold UnpackedFloat.pack
    dsimp only
    by_cases hlarge : 2 ^ 11 ≤ (e + Format.binary64.exponentBias + (52 : Nat)).toNat + 1
    · rw [if_pos hlarge, unpack_packedInfinity]
      nofun
    · rw [if_neg hlarge]
      by_cases hnormal : m.log2 + 1 = Format.binary64.mantissaBits
      · rw [if_pos hnormal]
        refine unpack_packComponents_ne s (fun hlargest => ?_) _
        have hvalue := congrArg BitVec.toNat hlargest
        have hones : (-1#11 : BitVec 11).toNat = 2047 := rfl
        rw [BitVec.toNat_ofNat, hones] at hvalue
        omega
      · rw [if_neg hnormal]
        exact unpack_packComponents_ne s (by decide) _

/-! ## Sums -/

theorem roundWithAccuracy_ne (s : UnpackedFloat.Sign) (m : Nat) (e : Int) (a : UnpackedFloat.Accuracy) :
    UnpackedFloat.roundWithAccuracy .binary64 s m e a ≠ .notANumber := by
  -- what is left of the mantissa is either zero or that of a finite number
  intro hround
  unfold UnpackedFloat.roundWithAccuracy at hround
  rw [dite_eq_iff] at hround
  obtain ⟨_, hzero⟩ | ⟨_, hfinite⟩ := hround
  · cases hzero
  · cases hfinite

theorem round_ne (s : UnpackedFloat.Sign) (m : Nat) (e : Int) : UnpackedFloat.round .binary64 s m e ≠ .notANumber :=
  roundWithAccuracy_ne s _ _ _

/-- Only two infinities can cancel out. -/
theorem add_ne {x y : UnpackedFloat} (hx : x.isFinite = true) (hy : y ≠ .notANumber) :
    UnpackedFloat.add .binary64 x y ≠ .notANumber := by
  cases x with
  | notANumber => cases hx
  | infinity s => cases hx
  | zero s =>
    cases y with
    | notANumber => exact absurd rfl hy
    | infinity t => nofun
    | zero t => cases s <;> cases t <;> nofun
    | finite t n f hn => nofun
  | finite s m e hm =>
    cases y with
    | notANumber => exact absurd rfl hy
    | infinity t => nofun
    | zero t => nofun
    | finite t n f hn =>
      unfold UnpackedFloat.add UnpackedFloat.normalize
      dsimp only
      generalize compare (_ : Int) 0 = sign
      cases sign with
      | lt => exact round_ne _ _ _
      | eq => nofun
      | gt => exact round_ne _ _ _

/-- The sum of a finite number and another is a number. -/
theorem unpack_add_ne {x y : Float} (hx : x.isFinite = true) (hy : y.toModel.unpack ≠ .notANumber) :
    (x + y).toModel.unpack ≠ .notANumber :=
  unpack_pack_ne (add_ne hx hy)

/-! ## Infinities -/

theorem lt_of_negative_infinity {x y : Float} (hx : x.toModel.unpack = .infinity .negative)
    (hy : y.isFinite = true) : x < y := by
  have hfinite : y.toModel.unpack.isFinite = true := hy
  rw [lt_iff, hx]
  cases hmodel : y.toModel.unpack with
  | notANumber => rw [hmodel] at hfinite; cases hfinite
  | infinity s => rw [hmodel] at hfinite; cases hfinite
  | zero s => rfl
  | finite s m e hm => rfl

theorem lt_of_positive_infinity {x y : Float} (hx : x.toModel.unpack = .infinity .positive)
    (hy : y.isFinite = true) : y < x ∧ ¬ x < y := by
  have hfinite : y.toModel.unpack.isFinite = true := hy
  rw [lt_iff, lt_iff, hx]
  cases hmodel : y.toModel.unpack with
  | notANumber => rw [hmodel] at hfinite; cases hfinite
  | infinity s => rw [hmodel] at hfinite; cases hfinite
  | zero s => exact ⟨rfl, nofun⟩
  | finite s m e hm => exact ⟨by cases s <;> rfl, nofun⟩

/-- What is a number, infinite or not, is finite when it is moved into an interval with finite ends. -/
theorem isFinite_clamp_of_ne {lo hi x : Float} (hlo : lo.isFinite = true) (hhi : hi.isFinite = true)
    (h : x.toModel.unpack ≠ .notANumber) : (Scalar.clamp lo hi x).isFinite = true := by
  cases hx : x.toModel.unpack with
  | notANumber => exact absurd hx h
  | infinity s =>
    cases s with
    | negative =>
      have hbelow : Scalar.lt x lo = true := decide_eq_true (lt_of_negative_infinity hx hlo)
      rw [Scalar.clamp, if_pos hbelow]
      exact hlo
    | positive =>
      have hnotBelow : ¬ Scalar.lt x lo = true := by
        simpa [Scalar.lt] using (lt_of_positive_infinity hx hlo).2
      have habove : Scalar.lt hi x = true := decide_eq_true (lt_of_positive_infinity hx hhi).1
      rw [Scalar.clamp, if_neg hnotBelow, if_pos habove]
      exact hhi
  | zero _ | finite _ _ _ _ =>
    refine isFinite_clamp hlo hhi ?_
    show x.toModel.unpack.isFinite = true
    rw [hx]
    rfl

theorem isFinite_clamp_add {lo hi x y : Float} (hlo : lo.isFinite = true) (hhi : hi.isFinite = true)
    (hx : x.isFinite = true) (hy : y.isFinite = true) : (Scalar.clamp lo hi (x + y)).isFinite = true :=
  isFinite_clamp_of_ne hlo hhi (unpack_add_ne hx (ne_of_isFinite hy))

end HilBridge.Binary64
