import HilBridge.Proofs.Number.FloatSum
import HilBridge.Proofs.Number.FloatValue

/-!
# `HilBridge.Proofs.Number.FloatNearest` — whole numbers, and intervals

A finite number is a fraction of natural numbers (`Dyadic.num_div_den`), and the larger of two has no smaller nearest
integer (`roundClamped_le_roundClamped`). Moving numbers into an interval keeps their order too (`clamp_le_clamp`), and
the infinite ones are moved to its ends. Only "not a number" has no place in the order: no interval takes it in, and it
is rounded to zero (`roundClamped_of_isNaN`).
-/

namespace HilBridge

/-! ## Fractions -/

theorem Dyadic.num_div_den (d : Dyadic) : (d.num : ℚ) / d.den = d.mantissa * 2 ^ d.exponent := by
  have hnum : (d.num : ℚ) = d.mantissa * 2 ^ d.exponent.toNat := by
    show ((d.mantissa * 2 ^ d.exponent.toNat : Nat) : ℚ) = _
    push_cast
    rfl
  have hden : (d.den : ℚ) = 2 ^ (-d.exponent).toNat := by
    show ((2 ^ (-d.exponent).toNat : Nat) : ℚ) = _
    push_cast
    rfl
  rw [hnum, hden, mul_div_assoc, ← zpow_natCast, ← zpow_natCast, ← zpow_sub₀ two_ne_zero]
  congr 2
  omega

/-- The larger of two fractions has no smaller nearest integer. -/
theorem roundHalfUp_le_roundHalfUp {num den num' den' : Nat} (hden : 0 < den) (hden' : 0 < den')
    (hle : (num : ℚ) / den ≤ num' / den') : roundHalfUp num den ≤ roundHalfUp num' den' := by
  have hcross : num * den' ≤ num' * den := by
    rw [div_le_div_iff₀ (Nat.cast_pos.mpr hden) (Nat.cast_pos.mpr hden')] at hle
    exact_mod_cast hle
  refine (Nat.le_div_iff_mul_le (by omega)).mpr (Nat.le_of_mul_le_mul_right ?_ hden)
  have hbelow : roundHalfUp num den * (2 * den) ≤ 2 * num + den := Nat.div_mul_le_self _ _
  calc roundHalfUp num den * (2 * den') * den = roundHalfUp num den * (2 * den) * den' := by ring
    _ ≤ (2 * num + den) * den' := Nat.mul_le_mul_right _ hbelow
    _ = 2 * (num * den') + den * den' := by ring
    _ ≤ 2 * (num' * den) + den * den' := by omega
    _ = (2 * num' + den') * den := by ring

namespace Binary64

open Float.Model (UnpackedFloat)

/-! ## Nearest integers -/

theorem roundClamped_mem (lo hi : Int) (hlo : lo ≤ 0) (hhi : 0 ≤ hi) (x : Float) :
    lo ≤ roundClamped lo hi x ∧ roundClamped lo hi x ≤ hi := by
  unfold roundClamped
  split
  case h_1 => exact ⟨hlo, hhi⟩
  case h_2 => split <;> omega
  case h_3 d _ => exact clampInt_mem (by omega) d.nearest

/-- A finite number that is not negative is read as a dyadic number of its value, with no sign unless it is zero. -/
theorem exists_dyadic {x : UnpackedFloat} (hx : IsUnsigned x) (hfinite : x.isFinite = true) :
    ∃ d : Dyadic, ofUnpacked x = .finite d ∧ (d.negative && d.mantissa != 0) = false
      ∧ magnitude x = d.mantissa * 2 ^ d.exponent := by
  cases x with
  | notANumber => cases hx
  | infinity s => cases hfinite
  | zero s => exact ⟨_, rfl, Bool.and_false _, by rw [magnitude_zero, Nat.cast_zero, zero_mul]⟩
  | finite s m e hm =>
    obtain ⟨rfl, -⟩ := hx
    exact ⟨_, rfl, rfl, rfl⟩

theorem exists_nearest (lo hi : Int) {x : Float} (hx : 0.0 ≤ x) (hfinite : x.isFinite = true) :
    ∃ d : Dyadic, roundClamped lo hi x = clampInt lo hi (roundHalfUp d.num d.den)
      ∧ magnitude x.toModel.unpack = (d.num : ℚ) / d.den := by
  obtain ⟨d, hclass, hsign, hvalue⟩ := exists_dyadic (nonneg_iff.mp hx) hfinite
  refine ⟨d, ?_, hvalue.trans d.num_div_den.symm⟩
  rw [roundClamped, classify_eq, hclass]
  show clampInt lo hi d.nearest = _
  rw [Dyadic.nearest, Dyadic.withSign]
  split
  case isFalse => rfl
  case isTrue hnegative =>
    -- only zero has a sign here
    have hzero : d.num = 0 := by
      have hmantissa : d.mantissa = 0 := by simpa [hnegative] using hsign
      rw [Dyadic.num, hmantissa, Nat.zero_mul]
    rw [hzero, roundHalfUp, Nat.mul_zero, Nat.zero_add, Nat.div_eq_of_lt (by have := d.den_pos; omega)]
    rfl

/-- The larger of two numbers has no smaller nearest integer. -/
theorem roundClamped_le_roundClamped (lo hi : Int) {x y : Float} (hx : 0.0 ≤ x) (hle : x ≤ y)
    (hfinite : y.isFinite = true) : roundClamped lo hi x ≤ roundClamped lo hi y := by
  have hy := nonneg_of_le hx hle
  obtain ⟨d, hround, hvalue⟩ := exists_nearest lo hi hx (isFinite_of_le hx hle hfinite)
  obtain ⟨d', hround', hvalue'⟩ := exists_nearest lo hi hy hfinite
  rw [le_iff_magnitude hx hy, hvalue, hvalue'] at hle
  rw [hround, hround']
  exact clampInt_mono (Int.ofNat_le.mpr (roundHalfUp_le_roundHalfUp d.den_pos d'.den_pos hle))

/-! ## Intervals -/

theorem le_of_lt {x y : Float} (h : x < y) : x ≤ y := by
  rw [le_iff, lt_iff.mp h]
  rfl

/-- "Not a number" is the one value that is not in the order. -/
theorem isNaN_iff {x : Float} : Scalar.isNaN x = true ↔ x.toModel.unpack = .notANumber := by
  have hself : Scalar.isNaN x = true ↔ ¬ x ≤ x := by simp [Scalar.isNaN, Scalar.le]
  rw [hself]
  constructor
  · intro h
    cases hx : x.toModel.unpack with
    | notANumber => rfl
    | infinity s => exact absurd (le_iff.mpr (by rw [hx]; cases s <;> rfl)) h
    | zero s => exact absurd (le_iff.mpr (by rw [hx]; rfl)) h
    | finite s m e hm =>
      refine absurd (le_refl ?_) h
      show x.toModel.unpack.isFinite = true
      rw [hx]
      rfl
  · intro hx h
    rw [le_iff, hx] at h
    cases h

theorem isNaN_of_le {x y : Float} (h : x ≤ y) : Scalar.isNaN x = false ∧ Scalar.isNaN y = false := by
  rw [le_iff] at h
  refine ⟨Bool.eq_false_iff.mpr fun hx => ?_, Bool.eq_false_iff.mpr fun hy => ?_⟩
  · rw [isNaN_iff.mp hx] at h
    cases h
  · rw [isNaN_iff.mp hy, compare_notANumber] at h
    cases h

/-- "Not a number" is rounded to zero. -/
theorem roundClamped_of_isNaN {x : Float} (h : Scalar.isNaN x = true) (lo hi : Int) : roundClamped lo hi x = 0 := by
  rw [roundClamped, classify_eq, isNaN_iff.mp h]
  rfl

/-- It stays what it is in an interval. -/
theorem clamp_of_isNaN {x : Float} (h : Scalar.isNaN x = true) (lo hi : Float) : Scalar.clamp lo hi x = x := by
  have hbelow : Scalar.lt x lo = false := decide_eq_false fun hlt => by
    rw [(isNaN_of_le (le_of_lt hlt)).1] at h
    cases h
  have habove : Scalar.lt hi x = false := decide_eq_false fun hlt => by
    rw [(isNaN_of_le (le_of_lt hlt)).2] at h
    cases h
  rw [Scalar.clamp, hbelow, habove]
  rfl

theorem notANumber_mul (y : UnpackedFloat) : UnpackedFloat.mul .binary64 .notANumber y = .notANumber := by
  cases y <;> rfl

theorem isNaN_mul {x : Float} (h : Scalar.isNaN x = true) (y : Float) : Scalar.isNaN (x * y) = true := by
  have hproduct : (x * y).toModel.unpack = UnpackedFloat.unpack .binary64
      (UnpackedFloat.pack .binary64 (UnpackedFloat.mul .binary64 x.toModel.unpack y.toModel.unpack)) := rfl
  rw [isNaN_iff, hproduct, isNaN_iff.mp h, notANumber_mul]
  rfl

theorem ne_of_isNaN {x : Float} (h : Scalar.isNaN x = false) : x.toModel.unpack ≠ .notANumber := by
  intro hx
  rw [isNaN_iff.mpr hx] at h
  cases h

/-- Every other number is moved into it, infinite or not. -/
theorem clamp_mem_of_isNaN {lo hi x : Float} (hle : lo ≤ hi) (h : Scalar.isNaN x = false) :
    lo ≤ Scalar.clamp lo hi x ∧ Scalar.clamp lo hi x ≤ hi := by
  have hlo := ne_of_isNaN (isNaN_of_le hle).1
  have hhi := ne_of_isNaN (isNaN_of_le hle).2
  refine clamp_mem_of_ne hlo hhi hle ?_
  unfold Scalar.clamp
  split
  · exact hlo
  · split
    · exact hhi
    · exact ne_of_isNaN h

/-- What is below a number and below the upper end is below the number that is moved into the interval. -/
theorem le_clamp {lo hi y z : Float} (hz : 0.0 ≤ z) (hhi : z ≤ hi) (hy : z ≤ y) : z ≤ Scalar.clamp lo hi y := by
  unfold Scalar.clamp
  split
  case isTrue hbelow => exact le_trans hz hy (le_of_lt (of_decide_eq_true hbelow))
  case isFalse =>
    split
    case isTrue => exact hhi
    case isFalse => exact hy

/-- Moving numbers into an interval keeps their order. -/
theorem clamp_le_clamp {lo hi x y : Float} (hlo : 0.0 ≤ lo) (hlohi : lo ≤ hi) (hfinite : hi.isFinite = true)
    (hle : x ≤ y) : Scalar.clamp lo hi x ≤ Scalar.clamp lo hi y := by
  have hhi := nonneg_of_le hlo hlohi
  obtain ⟨hx, hy⟩ := isNaN_of_le hle
  have hxmem := clamp_mem_of_isNaN hlohi hx
  have hymem := clamp_mem_of_isNaN hlohi hy
  by_cases hbelow : Scalar.lt x lo = true
  · rw [Scalar.clamp, if_pos hbelow]
    exact hymem.1
  by_cases habove : Scalar.lt hi x = true
  · have hmoved : Scalar.clamp lo hi x = hi := by rw [Scalar.clamp, if_neg hbelow, if_pos habove]
    rw [hmoved]
    exact le_clamp hhi (le_refl hfinite) (le_trans hhi (le_of_lt (of_decide_eq_true habove)) hle)
  · have hstays : Scalar.clamp lo hi x = x := by rw [Scalar.clamp, if_neg hbelow, if_neg habove]
    rw [hstays] at hxmem ⊢
    exact le_clamp (nonneg_of_le hlo hxmem.1) hxmem.2 hle

end Binary64

end HilBridge
