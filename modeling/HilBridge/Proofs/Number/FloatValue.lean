import Mathlib
import HilBridge.Number.FloatFormat
import HilBridge.Proofs.Number.FloatOrder

/-!
# `HilBridge.Proofs.Number.FloatValue` — the values of double precision numbers

A finite number that is not negative is a mantissa times a power of two. The larger of two exponents belongs to the
larger number, because only the smallest exponent has mantissas with a leading zero (`IsNormalized`). So the comparison,
which looks at the exponents first, compares the values (`compare_isLE_iff`), if infinity is given the value of the
first power of two that is out of reach.

`classify_eq` relates the two readings of a bit pattern: the one by `FloatFormat.classify` and the one by which
arithmetic is defined.
-/

namespace HilBridge.Binary64

open Float.Model (UnpackedFloat Format)
open Float.Model.UnpackedFloat (unpackMantissa unpackExponent unpackSign)

/-! ## Mantissas and exponents -/

/-- A mantissa with as many digits as it can have: no leading zero but at the smallest exponent. -/
structure IsNormalized (m : Nat) (e : Int) : Prop where
  mantissa : m < 2 ^ 53
  exponent : -1074 ≤ e
  leading : e ≠ -1074 → 2 ^ 52 ≤ m

section
variable {m n : Nat} {e f : Int}

theorem two_zpow_pos (e : Int) : (0 : ℚ) < 2 ^ e :=
  zpow_pos (by norm_num) e

theorem two_zpow_le (h : e ≤ f) : (2 : ℚ) ^ e ≤ 2 ^ f :=
  zpow_le_zpow_right₀ (by norm_num) h

theorem two_zpow_succ (e : Int) : (2 : ℚ) ^ (e + 1) = 2 * 2 ^ e := by
  rw [zpow_add₀ (by norm_num), zpow_one, mul_comm]

/-- A larger exponent is that of a larger number. -/
theorem IsNormalized.lt_of_lt (hm : IsNormalized m e) (hn : IsNormalized n f) (h : e < f) :
    (m : ℚ) * 2 ^ e < n * 2 ^ f := by
  have hmantissa : (m : ℚ) < 2 ^ 53 := by exact_mod_cast hm.mantissa
  have hleading : (2 : ℚ) ^ 52 ≤ n := by exact_mod_cast hn.leading (by have := hm.exponent; omega)
  calc (m : ℚ) * 2 ^ e < 2 ^ 53 * 2 ^ e := by
        exact mul_lt_mul_of_pos_right hmantissa (two_zpow_pos e)
    _ = 2 ^ 52 * 2 ^ (e + 1) := by
        rw [two_zpow_succ]
        ring
    _ ≤ n * 2 ^ f := by
        exact mul_le_mul hleading (two_zpow_le h) (two_zpow_pos _).le n.cast_nonneg

theorem IsNormalized.lt_infinity (hm : IsNormalized m e) (he : e ≤ 971) : (m : ℚ) * 2 ^ e < 2 ^ 1024 := by
  have hmantissa : (m : ℚ) < 2 ^ 53 := by exact_mod_cast hm.mantissa
  calc (m : ℚ) * 2 ^ e < 2 ^ 53 * 2 ^ e := by
        exact mul_lt_mul_of_pos_right hmantissa (two_zpow_pos e)
    _ ≤ 2 ^ 53 * 2 ^ (971 : Int) := by
        exact mul_le_mul_of_nonneg_left (two_zpow_le he) (by norm_num)
    _ = 2 ^ 1024 := by
        rw [show (971 : Int) = ((971 : Nat) : Int) from rfl, zpow_natCast, ← pow_add]

/-- Exponents are compared before mantissas, and that is the order of the values. -/
theorem IsNormalized.compare_isLE_iff (hm : IsNormalized m e) (hn : IsNormalized n f) :
    ((compare e f).then (compare m n)).isLE = true ↔ (m : ℚ) * 2 ^ e ≤ n * 2 ^ f := by
  rcases lt_trichotomy e f with hlt | rfl | hgt
  · rw [compare_lt_iff_lt.mpr hlt]
    exact ⟨fun _ => (hm.lt_of_lt hn hlt).le, fun _ => rfl⟩
  · rw [compare_eq_iff_eq.mpr rfl, mul_le_mul_iff_left₀ (two_zpow_pos e), Nat.cast_le]
    exact Nat.isLE_compare
  · rw [compare_gt_iff_gt.mpr hgt]
    exact ⟨nofun, fun hle => absurd hle (hn.lt_of_lt hm hgt).not_ge⟩

end

/-! ## Numbers that are not negative -/

/-- The absolute value. That of an infinity is taken to be the first power of two beyond the largest number. -/
def magnitude : UnpackedFloat → ℚ
  | .finite _ m e _ => m * 2 ^ e
  | .infinity _ => 2 ^ 1024
  | _ => 0

/-- A number of double precision, or infinity, that is not negative. -/
def IsUnsigned : UnpackedFloat → Prop
  | .zero _ => True
  | .infinity s => s = .positive
  | .finite s m e _ => s = .positive ∧ IsNormalized m e ∧ e ≤ 971
  | .notANumber => False

@[simp]
theorem magnitude_zero (s : UnpackedFloat.Sign) : magnitude (.zero s) = 0 :=
  rfl

theorem magnitude_nonneg (x : UnpackedFloat) : 0 ≤ magnitude x := by
  cases x with
  | notANumber | zero s => exact le_rfl
  | infinity s => exact pow_nonneg (by norm_num) 1024
  | finite s m e hm => exact mul_nonneg m.cast_nonneg (two_zpow_pos e).le

theorem magnitude_finite_pos (s : UnpackedFloat.Sign) {m : Nat} {e : Int} (hm : 0 < m) :
    0 < magnitude (.finite s m e hm) :=
  mul_pos (Nat.cast_pos.mpr hm) (two_zpow_pos e)

/-- Infinity is where the values are out of reach. -/
theorem isFinite_iff_magnitude {x : UnpackedFloat} (hx : IsUnsigned x) :
    x.isFinite = true ↔ magnitude x < 2 ^ 1024 := by
  cases x with
  | notANumber => cases hx
  | infinity s => exact ⟨nofun, fun h => absurd h (lt_irrefl _)⟩
  | zero s => exact ⟨fun _ => pow_pos (by norm_num) 1024, fun _ => rfl⟩
  | finite s m e hm => exact ⟨fun _ => hx.2.1.lt_infinity hx.2.2, fun _ => rfl⟩

/-- The comparison compares the values. -/
theorem compare_isLE_iff {x y : UnpackedFloat} (hx : IsUnsigned x) (hy : IsUnsigned y) :
    (x.compare y).any (·.isLE) = true ↔ magnitude x ≤ magnitude y := by
  cases x with
  | notANumber => cases hx
  | infinity s =>
    cases hx
    cases y with
    | notANumber => cases hy
    | infinity t => cases hy; exact ⟨fun _ => le_rfl, fun _ => rfl⟩
    | zero t => exact ⟨nofun, fun hle => absurd hle (not_le.mpr (pow_pos (by norm_num) 1024))⟩
    | finite t n f hn =>
      obtain ⟨rfl, hn, hf⟩ := hy
      exact ⟨nofun, fun hle => absurd hle (hn.lt_infinity hf).not_ge⟩
  | zero s =>
    refine ⟨fun _ => magnitude_nonneg y, fun _ => ?_⟩
    cases y with
    | notANumber => cases hy
    | infinity t => cases hy; rfl
    | zero t => rfl
    | finite t n f hn => obtain ⟨rfl, -⟩ := hy; rfl
  | finite s m e hm =>
    obtain ⟨rfl, hm', he⟩ := hx
    cases y with
    | notANumber => cases hy
    | infinity t => cases hy; exact ⟨fun _ => (hm'.lt_infinity he).le, fun _ => rfl⟩
    | zero t => exact ⟨nofun, fun hle => absurd hle (magnitude_finite_pos .positive hm).not_ge⟩
    | finite t n f hn =>
      obtain ⟨rfl, hn', -⟩ := hy
      exact hm'.compare_isLE_iff hn'

theorem compare_notANumber (x : UnpackedFloat) : x.compare .notANumber = none := by
  cases x <;> rfl

/-- Nothing negative is above a number that is not. -/
theorem not_isLE_negative {x : UnpackedFloat} (hx : IsUnsigned x) :
    (x.compare (.infinity .negative)).any (·.isLE) = false
      ∧ ∀ m e (hm : 0 < m), (x.compare (.finite .negative m e hm)).any (·.isLE) = false := by
  cases x with
  | notANumber => cases hx
  | infinity s => cases hx; exact ⟨rfl, fun _ _ _ => rfl⟩
  | zero s => exact ⟨rfl, fun _ _ _ => rfl⟩
  | finite s m e hm => cases hx.1; exact ⟨rfl, fun _ _ _ => rfl⟩

/-! ## Read bit patterns -/

section
variable (b : BitVec 64)

theorem toNat_unpackMantissa : (@unpackMantissa .binary64 b).toNat = b.toNat % 2 ^ 52 := by
  rw [unpackMantissa, BitVec.toNat_cast, BitVec.extractLsb_toNat, Nat.shiftRight_zero]
  rfl

theorem toNat_unpackExponent : (@unpackExponent .binary64 b).toNat = b.toNat / 2 ^ 52 % 2 ^ 11 := by
  rw [unpackExponent, BitVec.toNat_cast, BitVec.extractLsb_toNat, Nat.shiftRight_eq_div_pow]
  rfl

theorem toNat_unpackSign : (@unpackSign .binary64 b).toNat = b.toNat / 2 ^ 63 % 2 := by
  rw [unpackSign, BitVec.toNat_cast, BitVec.extractLsb_toNat, Nat.shiftRight_eq_div_pow]
  rfl

theorem toNat_leading_append (m : BitVec 52) : (1#1 ++ m).toNat = m.toNat + 2 ^ 52 := by
  rw [BitVec.toNat_append, ← Nat.shiftLeft_add_eq_or_of_lt m.isLt, Nat.shiftLeft_eq, Nat.add_comm]
  rfl

end

/-- Numbers that are read off a bit pattern are normalized. -/
theorem isNormalized_unpack {b : BitVec 64} {s : UnpackedFloat.Sign} {m : Nat} {e : Int} {hm : 0 < m}
    (h : UnpackedFloat.unpack .binary64 b = .finite s m e hm) : IsNormalized m e ∧ e ≤ 971 := by
  have hmantissa : (@unpackMantissa .binary64 b).toNat < 2 ^ 52 := BitVec.isLt _
  have hexponent : (@unpackExponent .binary64 b).toNat < 2 ^ 11 := BitVec.isLt _
  unfold UnpackedFloat.unpack at h
  dsimp only at h
  split at h
  · split at h <;> cases h
  case isFalse hspecial =>
  split at h
  case isTrue hsubnormal =>
    split at h
    · cases h
    · cases h
      rw [hsubnormal]
      exact ⟨⟨by omega, by decide, fun h => absurd rfl h⟩, by decide⟩
  case isFalse hnormal =>
    cases h
    have hnonzero : (@unpackExponent .binary64 b).toNat ≠ 0 := fun h => hnormal (BitVec.eq_of_toNat_eq h)
    have hlarge : (@unpackExponent .binary64 b).toNat ≠ 2047 := fun h => hspecial (BitVec.eq_of_toNat_eq h)
    rw [toNat_leading_append]
    have hbias : (Format.binary64.exponentBias : Int) + Format.binary64.mantissaBitsWithoutImplicit = 1075 := rfl
    rw [hbias]
    exact ⟨⟨by omega, by omega, fun _ => by omega⟩, by omega⟩

/-- What arithmetic takes a bit pattern to be, as a class. -/
def ofUnpacked : UnpackedFloat → FloatClass
  | .notANumber => .nan
  | .infinity s => .infinite (s == .negative)
  | .zero s => .finite ⟨s == .negative, 0, -1074⟩
  | .finite s m e _ => .finite ⟨s == .negative, m, e⟩

theorem unpackExponent_eq_iff (b : BitVec 64) (field : BitVec 11) :
    @unpackExponent .binary64 b = field ↔ b.toNat / 2 ^ 52 % 2 ^ 11 = field.toNat := by
  rw [← toNat_unpackExponent]
  exact BitVec.toNat_inj.symm

theorem unpackMantissa_eq_iff (b : BitVec 64) (field : BitVec 52) :
    @unpackMantissa .binary64 b = field ↔ b.toNat % 2 ^ 52 = field.toNat := by
  rw [← toNat_unpackMantissa]
  exact BitVec.toNat_inj.symm

theorem ofBitVec_beq_negative (b : BitVec 64) :
    (UnpackedFloat.Sign.ofBitVec (@unpackSign .binary64 b) == .negative) = decide (b.toNat / 2 ^ 63 % 2 = 1) := by
  rw [← toNat_unpackSign]
  generalize @unpackSign .binary64 b = sign
  obtain ⟨⟨value, hvalue⟩⟩ := sign
  match value with
  | 0 => rfl
  | 1 => rfl

theorem classify_binary64 (n : Nat) :
    FloatFormat.binary64.classify n
      = if n / 2 ^ 52 % 2 ^ 11 = 2047 then
          if n % 2 ^ 52 = 0 then .infinite (decide (n / 2 ^ 63 % 2 = 1)) else .nan
        else if n / 2 ^ 52 % 2 ^ 11 = 0 then .finite ⟨decide (n / 2 ^ 63 % 2 = 1), n % 2 ^ 52, -1074⟩
        else .finite ⟨decide (n / 2 ^ 63 % 2 = 1), n % 2 ^ 52 + 2 ^ 52, -1074 + (n / 2 ^ 52 % 2 ^ 11 - 1 : Nat)⟩ :=
  rfl

/-- A bit pattern is read as the number that arithmetic takes it to be. -/
theorem classify_eq (x : Float) : classify x = ofUnpacked x.toModel.unpack := by
  show FloatFormat.binary64.classify x.toModel.toBits.toBitVec.toNat
    = ofUnpacked (UnpackedFloat.unpack .binary64 x.toModel.toBits.toBitVec)
  generalize x.toModel.toBits.toBitVec = b
  have hinfinity : b.toNat / 2 ^ 52 % 2 ^ 11 = 2047 ↔ @unpackExponent .binary64 b = -1#11 :=
    (unpackExponent_eq_iff b (-1#11)).symm
  have hsubnormal : b.toNat / 2 ^ 52 % 2 ^ 11 = 0 ↔ @unpackExponent .binary64 b = 0#11 :=
    (unpackExponent_eq_iff b 0#11).symm
  have hnone : b.toNat % 2 ^ 52 = 0 ↔ @unpackMantissa .binary64 b = 0#52 :=
    (unpackMantissa_eq_iff b 0#52).symm
  have hexponent := toNat_unpackExponent b
  rw [classify_binary64]
  unfold UnpackedFloat.unpack
  dsimp only
  by_cases hspecial : @unpackExponent .binary64 b = -1#11
  · rw [if_pos hspecial, if_pos (hinfinity.mpr hspecial)]
    by_cases hzero : @unpackMantissa .binary64 b = 0#52
    · rw [if_pos hzero, if_pos (hnone.mpr hzero), ofUnpacked, ofBitVec_beq_negative]
    · rw [if_neg hzero, if_neg fun h => hzero (hnone.mp h), ofUnpacked]
  · rw [if_neg hspecial, if_neg fun h => hspecial (hinfinity.mp h)]
    by_cases hsmall : @unpackExponent .binary64 b = 0#11
    · rw [if_pos hsmall, if_pos (hsubnormal.mpr hsmall)]
      by_cases hzero : @unpackMantissa .binary64 b = 0#52
      · rw [dif_pos hzero, ofUnpacked, ofBitVec_beq_negative, hnone.mpr hzero]
      · rw [dif_neg hzero, ofUnpacked, ofBitVec_beq_negative, toNat_unpackMantissa, hsmall]
        rfl
    · rw [if_neg hsmall, if_neg fun h => hsmall (hsubnormal.mp h), ofUnpacked, ofBitVec_beq_negative,
        toNat_leading_append, toNat_unpackMantissa]
      have hnormal : b.toNat / 2 ^ 52 % 2 ^ 11 ≠ 0 := fun h => hsmall (hsubnormal.mp h)
      have hunit : -1074 + ((b.toNat / 2 ^ 52 % 2 ^ 11 - 1 : Nat) : Int)
          = (b.toNat / 2 ^ 52 % 2 ^ 11 : Nat) - 1075 := by
        omega
      rw [hunit, hexponent]
      rfl

/-! ## Written bit patterns -/

open Float.Model.UnpackedFloat (packComponents packedInfinity unpackMantissa_packComponents
  unpackExponent_packComponents)

theorem toNat_packComponents (s : UnpackedFloat.Sign) (exponent : BitVec 11) (mantissa : BitVec 52) :
    (packComponents .binary64 s exponent mantissa).toNat
      = s.toBitVec.toNat * 2 ^ 63 + exponent.toNat * 2 ^ 52 + mantissa.toNat := by
  have hupper : (s.toBitVec ++ exponent).toNat = s.toBitVec.toNat * 2 ^ 11 + exponent.toNat := by
    rw [BitVec.toNat_append, ← Nat.shiftLeft_add_eq_or_of_lt exponent.isLt, Nat.shiftLeft_eq]
  have hall : (packComponents .binary64 s exponent mantissa).toNat
      = (s.toBitVec ++ exponent).toNat * 2 ^ 52 + mantissa.toNat := by
    show (s.toBitVec ++ exponent ++ mantissa).toNat = _
    rw [BitVec.toNat_append, ← Nat.shiftLeft_add_eq_or_of_lt mantissa.isLt, Nat.shiftLeft_eq]
  rw [hall, hupper]
  ring

theorem ofBitVec_unpackSign_packComponents (s : UnpackedFloat.Sign) (exponent : BitVec 11) (mantissa : BitVec 52) :
    UnpackedFloat.Sign.ofBitVec (unpackSign (packComponents .binary64 s exponent mantissa)) = s := by
  have hexponent : exponent.toNat < 2 ^ 11 := exponent.isLt
  have hmantissa : mantissa.toNat < 2 ^ 52 := mantissa.isLt
  have hsign : unpackSign (packComponents .binary64 s exponent mantissa) = s.toBitVec := by
    refine BitVec.eq_of_toNat_eq ?_
    rw [toNat_unpackSign, toNat_packComponents]
    have hbit : s.toBitVec.toNat < 2 := s.toBitVec.isLt
    omega
  rw [hsign]
  cases s <;> rfl

theorem unpack_packComponents_subnormal (s : UnpackedFloat.Sign) {mantissa : BitVec 52} (h : mantissa ≠ 0#52)
    (hm : 0 < mantissa.toNat) :
    UnpackedFloat.unpack .binary64 (packComponents .binary64 s 0#11 mantissa)
      = .finite s mantissa.toNat (-1074) hm := by
  unfold UnpackedFloat.unpack
  simp only [unpackMantissa_packComponents, unpackExponent_packComponents, ofBitVec_unpackSign_packComponents]
  rw [if_neg (by decide), if_pos trivial, dif_neg h]
  rfl

theorem unpack_packComponents_normal (s : UnpackedFloat.Sign) {exponent : BitVec 11} (hspecial : exponent ≠ -1#11)
    (hzero : exponent ≠ 0#11) (mantissa : BitVec 52) (hm : 0 < mantissa.toNat + 2 ^ 52) :
    UnpackedFloat.unpack .binary64 (packComponents .binary64 s exponent mantissa)
      = .finite s (mantissa.toNat + 2 ^ 52) (exponent.toNat - 1075) hm := by
  unfold UnpackedFloat.unpack
  simp only [unpackMantissa_packComponents, unpackExponent_packComponents, ofBitVec_unpackSign_packComponents]
  rw [if_neg hspecial, if_neg hzero]
  congr 1
  exact toNat_leading_append mantissa

theorem biased_exponent (e : Int) :
    e + Format.binary64.exponentBias + Format.binary64.mantissaBitsWithoutImplicit = e + 1075 :=
  add_assoc e 1023 52

/-- A number of double precision is written with the bias of the exponents, or as a subnormal one. -/
theorem pack_of_le (s : UnpackedFloat.Sign) {m : Nat} {e : Int} (hm : 0 < m) (hmantissa : m < 2 ^ 53) (he : e ≤ 971) :
    UnpackedFloat.pack .binary64 (.finite s m e hm)
      = if 2 ^ 52 ≤ m then packComponents .binary64 s (BitVec.ofNat 11 (e + 1075).toNat) (BitVec.ofNat 52 m)
        else packComponents .binary64 s 0#11 (BitVec.ofNat 52 m) := by
  have hleading : m.log2 + 1 = 53 ↔ 2 ^ 52 ≤ m := by
    have hbelow := (Nat.log2_lt hm.ne').mpr hmantissa
    rw [← Nat.le_log2 hm.ne']
    omega
  unfold UnpackedFloat.pack
  dsimp only
  rw [biased_exponent, if_neg (by omega)]
  exact if_congr hleading rfl rfl

theorem pack_of_lt (s : UnpackedFloat.Sign) {m : Nat} {e : Int} (hm : 0 < m) (he : 971 < e) :
    UnpackedFloat.pack .binary64 (.finite s m e hm) = packedInfinity .binary64 s := by
  unfold UnpackedFloat.pack
  dsimp only
  rw [biased_exponent, if_pos (by omega)]

/-- A number of double precision is read back as it was written. -/
theorem unpack_pack_of_le {s : UnpackedFloat.Sign} {m : Nat} {e : Int} {hm : 0 < m} (h : IsNormalized m e)
    (he : e ≤ 971) :
    UnpackedFloat.unpack .binary64 (UnpackedFloat.pack .binary64 (.finite s m e hm)) = .finite s m e hm := by
  obtain ⟨hmantissa, hexponent, hleading⟩ := h
  rw [pack_of_le s hm hmantissa he]
  by_cases hnormal : 2 ^ 52 ≤ m
  case pos =>
    have hfield : (BitVec.ofNat 11 (e + 1075).toNat).toNat = (e + 1075).toNat := by
      rw [BitVec.toNat_ofNat, Nat.mod_eq_of_lt (by omega)]
    have hspecial : BitVec.ofNat 11 (e + 1075).toNat ≠ -1#11 := by
      intro hones
      have hvalue : (e + 1075).toNat = 2047 := hfield.symm.trans (congrArg BitVec.toNat hones)
      omega
    have hzero : BitVec.ofNat 11 (e + 1075).toNat ≠ 0#11 := by
      intro hzero
      have hvalue : (e + 1075).toNat = 0 := hfield.symm.trans (congrArg BitVec.toNat hzero)
      omega
    have hfraction : (BitVec.ofNat 52 m).toNat + 2 ^ 52 = m := by
      rw [BitVec.toNat_ofNat]
      omega
    rw [if_pos hnormal, unpack_packComponents_normal s hspecial hzero _ (by omega)]
    congr 1
    omega
  case neg =>
    have hfraction : (BitVec.ofNat 52 m).toNat = m := by
      rw [BitVec.toNat_ofNat]
      omega
    have hnonzero : BitVec.ofNat 52 m ≠ 0#52 := by
      intro hzero
      have hvalue : m = 0 := hfraction.symm.trans (congrArg BitVec.toNat hzero)
      omega
    rw [if_neg hnormal, unpack_packComponents_subnormal s hnonzero (by omega)]
    congr 1
    by_contra hne
    exact hnormal (hleading fun h => hne h.symm)

/-! ## The order -/

section
variable {x y z : Float}

theorem unpack_zero : (0.0 : Float).toModel.unpack = .zero .positive :=
  rfl

theorem nonneg_iff : 0.0 ≤ x ↔ IsUnsigned x.toModel.unpack := by
  rw [le_iff, unpack_zero]
  cases hx : x.toModel.unpack with
  | notANumber => exact ⟨nofun, nofun⟩
  | infinity s => cases s <;> exact ⟨fun h => by cases h <;> rfl, fun h => by cases h <;> rfl⟩
  | zero s => exact ⟨fun _ => trivial, fun _ => rfl⟩
  | finite s m e hm =>
    have hnormalized := isNormalized_unpack hx
    cases s with
    | negative => exact ⟨nofun, fun h => by cases h.1⟩
    | positive => exact ⟨fun _ => ⟨rfl, hnormalized⟩, fun _ => rfl⟩

theorem le_iff_magnitude (hx : 0.0 ≤ x) (hy : 0.0 ≤ y) :
    x ≤ y ↔ magnitude x.toModel.unpack ≤ magnitude y.toModel.unpack := by
  rw [le_iff, compare_isLE_iff (nonneg_iff.mp hx) (nonneg_iff.mp hy)]

theorem nonneg_of_le (hx : 0.0 ≤ x) (hle : x ≤ y) : 0.0 ≤ y := by
  have hunsigned := nonneg_iff.mp hx
  rw [le_iff] at hle
  rw [nonneg_iff]
  cases hy : y.toModel.unpack with
  | notANumber => rw [hy, compare_notANumber] at hle; cases hle
  | zero t => trivial
  | infinity t =>
    cases t with
    | positive => rfl
    | negative => rw [hy, (not_isLE_negative hunsigned).1] at hle; cases hle
  | finite t n f hn =>
    cases t with
    | positive => exact ⟨rfl, isNormalized_unpack hy⟩
    | negative => rw [hy, (not_isLE_negative hunsigned).2] at hle; cases hle

theorem pos_iff : 0.0 < x ↔ 0.0 ≤ x ∧ 0 < magnitude x.toModel.unpack := by
  rw [lt_iff, nonneg_iff, unpack_zero]
  cases hx : x.toModel.unpack with
  | notANumber => exact ⟨nofun, fun h => h.1.elim⟩
  | infinity s =>
    cases s with
    | negative => exact ⟨nofun, fun h => by cases h.1⟩
    | positive => exact ⟨fun _ => ⟨rfl, pow_pos (by norm_num) 1024⟩, fun _ => rfl⟩
  | zero s => exact ⟨nofun, fun h => absurd h.2 (lt_irrefl 0)⟩
  | finite s m e hm =>
    cases s with
    | negative => exact ⟨nofun, fun h => by cases h.1.1⟩
    | positive => exact ⟨fun _ => ⟨⟨rfl, isNormalized_unpack hx⟩, magnitude_finite_pos .positive hm⟩, fun _ => rfl⟩

/-- Nothing is between a number and the one with the next mantissa. -/
theorem le_of_next {m : Nat} {e : Int} {hm : 0 < m} {hm' : 0 < m + 1}
    (hx : x.toModel.unpack = .finite .positive m e hm) (hy : y.toModel.unpack = .finite .positive (m + 1) e hm')
    (hlt : x < z) : y ≤ z := by
  rw [lt_iff, hx] at hlt
  rw [le_iff, hy]
  cases hz : z.toModel.unpack with
  | notANumber => rw [hz] at hlt; cases hlt
  | zero s => rw [hz] at hlt; cases hlt
  | infinity s => cases s <;> rw [hz] at hlt <;> first | rfl | cases hlt
  | finite s n f hn =>
    rw [hz] at hlt
    cases s with
    | negative => cases hlt
    | positive =>
      have hlt : (compare e f).then (compare m n) = .lt := Option.some.inj hlt
      show ((compare e f).then (compare (m + 1) n)).isLE = true
      rcases Ordering.then_eq_lt.mp hlt with hexponent | ⟨hexponent, hmantissa⟩
      · rw [hexponent]
        rfl
      · rw [hexponent]
        exact Nat.isLE_compare.mpr (compare_lt_iff_lt.mp hmantissa)

/-- What is not larger than a finite number is finite, unless it is negative. -/
theorem isFinite_of_le (hx : 0.0 ≤ x) (hle : x ≤ y) (hfinite : y.isFinite = true) : x.isFinite = true := by
  have hy := nonneg_of_le hx hle
  have hfinite : y.toModel.unpack.isFinite = true := hfinite
  show x.toModel.unpack.isFinite = true
  rw [isFinite_iff_magnitude (nonneg_iff.mp hy)] at hfinite
  rw [isFinite_iff_magnitude (nonneg_iff.mp hx)]
  exact ((le_iff_magnitude hx hy).mp hle).trans_lt hfinite

theorem le_trans (hx : 0.0 ≤ x) (hle : x ≤ y) (hle' : y ≤ z) : x ≤ z := by
  have hy := nonneg_of_le hx hle
  have hz := nonneg_of_le hy hle'
  rw [le_iff_magnitude hx hy] at hle
  rw [le_iff_magnitude hy hz] at hle'
  exact (le_iff_magnitude hx hz).mpr (hle.trans hle')

end

end HilBridge.Binary64
