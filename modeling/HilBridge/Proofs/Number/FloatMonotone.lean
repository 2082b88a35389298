import HilBridge.Proofs.Number.FloatRounding

/-!
# `HilBridge.Proofs.Number.FloatMonotone` — arithmetic that keeps the order

Division of numbers that are not negative is monotone (`div_le_div`), and so is multiplication by a factor without a
leading zero (`mul_le_mul_right`). A larger natural number does not become a smaller double (`ofNat_le_ofNat`). In all
of these the result is the exact one, rounded; what remains is that the mantissa to be rounded has all the digits that
it can have, or more.
-/

namespace HilBridge.Binary64

open Float.Model (UnpackedFloat Format totalExponent)

/-! ## Division -/

/-- The dividend is shifted far enough for the quotient to have all its digits. -/
theorem le_targetExponent_div {m n : Nat} {e f t : Int} (hn : 0 < n) (hm : 0 < m)
    (hsmaller : t ≤ e - f)
    (ht : t ≤ Format.binary64.targetExponent (totalExponent m e - totalExponent n f)) :
    t ≤ Format.binary64.targetExponent (totalExponent (m <<< (e - f - t).toNat / n) t) := by
  rw [targetExponent_binary64, totalExponent] at *
  rw [totalExponent] at ht
  -- at the smallest exponent there is nothing to show, as no mantissa has too few digits for it
  rcases Int.lt_or_le (-1074) t with hlarge | hsmall
  · have hpower : 2 ^ 52 * n ≤ m <<< (e - f - t).toNat := by
      calc 2 ^ 52 * n ≤ 2 ^ 52 * 2 ^ (n.log2 + 1) := Nat.mul_le_mul_left _ Nat.lt_log2_self.le
        _ = 2 ^ (n.log2 + 53) := by rw [← pow_add, Nat.add_left_comm]
        _ ≤ 2 ^ (m.log2 + (e - f - t).toNat) := Nat.pow_le_pow_right two_pos (by omega)
        _ = 2 ^ m.log2 * 2 ^ (e - f - t).toNat := pow_add 2 _ _
        _ ≤ m * 2 ^ (e - f - t).toNat := Nat.mul_le_mul_right _ (Nat.log2_self_le hm.ne')
        _ = m <<< (e - f - t).toNat := (Nat.shiftLeft_eq m _).symm
    have hquotient : 2 ^ 52 ≤ m <<< (e - f - t).toNat / n := (Nat.le_div_iff_mul_le hn).mpr hpower
    have hlog := (Nat.le_log2 (by omega)).mpr hquotient
    omega
  · omega

theorem rounds_div_finite {m n : Nat} {e f : Int} (hm : 0 < m) (hn : 0 < n) :
    Rounds (m * 2 ^ e / (n * 2 ^ f))
      (UnpackedFloat.div .binary64 (.finite .positive m e hm) (.finite .positive n f hn)) := by
  let t := min (e - f) (Format.binary64.targetExponent (totalExponent m e - totalExponent n f))
  have hrounds := rounds_roundWithAccuracy (represents_div (m <<< (e - f - t).toNat) hn)
    (le_targetExponent_div hn hm (min_le_left _ _) (min_le_right _ _))
  have hvalue : ((m <<< (e - f - t).toNat : Nat) : ℚ) / n * 2 ^ t = m * 2 ^ e / (n * 2 ^ f) := by
    have hshift : (2 : ℚ) ^ (e - f - t).toNat * 2 ^ t = 2 ^ e / 2 ^ f := by
      have hle : t ≤ e - f := min_le_left _ _
      rw [← zpow_natCast, ← zpow_add₀ two_ne_zero, ← zpow_sub₀ two_ne_zero]
      congr 1
      omega
    rw [Nat.shiftLeft_eq, Nat.cast_mul, Nat.cast_pow, Nat.cast_ofNat, div_mul_eq_mul_div, mul_assoc, hshift,
      mul_div_assoc', div_div, mul_comm (2 ^ f : ℚ)]
  rw [hvalue] at hrounds
  exact hrounds

/-- The quotient of two numbers is rounded. -/
theorem rounds_div {x y : UnpackedFloat} (hx : IsUnsigned x) (hfinite : x.isFinite = true) (hy : IsUnsigned y)
    (hpositive : 0 < magnitude y) (hfinite' : y.isFinite = true) :
    Rounds (magnitude x / magnitude y) (UnpackedFloat.div .binary64 x y) := by
  cases y with
  | notANumber => cases hy
  | infinity t => cases hfinite'
  | zero t => exact absurd hpositive (lt_irrefl 0)
  | finite t n f hn =>
    obtain ⟨rfl, -⟩ := hy
    cases x with
    | notANumber => cases hx
    | infinity s => cases hfinite
    | zero s =>
      rw [magnitude_zero, zero_div]
      exact rounds_zero _
    | finite s m e hm =>
      obtain ⟨rfl, -⟩ := hx
      exact rounds_div_finite hm hn

section
variable {x x' y y' : Float}

theorem isRounding_div (hx : 0.0 ≤ x) (hfinite : x.isFinite = true) (hy : 0.0 < y) (hfinite' : y.isFinite = true) :
    IsRounding (magnitude x.toModel.unpack / magnitude y.toModel.unpack) (x / y) :=
  ⟨_, rounds_div (nonneg_iff.mp hx) hfinite (nonneg_iff.mp (pos_iff.mp hy).1) (pos_iff.mp hy).2 hfinite', rfl⟩

theorem div_nonneg (hx : 0.0 ≤ x) (hfinite : x.isFinite = true) (hy : 0.0 < y) (hfinite' : y.isFinite = true) :
    0.0 ≤ x / y :=
  (isRounding_div hx hfinite hy hfinite').nonneg

/-- **Division is monotone**, in the dividend upwards and in the divisor downwards. -/
theorem div_le_div (hx : 0.0 ≤ x) (hle : x ≤ x') (hfinite : x'.isFinite = true) (hy' : 0.0 < y') (hle' : y' ≤ y)
    (hfinite' : y.isFinite = true) : x / y ≤ x' / y' := by
  have hx' := nonneg_of_le hx hle
  have hy : 0.0 < y := by
    obtain ⟨hnonneg, hpositive⟩ := pos_iff.mp hy'
    have hnonneg' := nonneg_of_le hnonneg hle'
    exact pos_iff.mpr ⟨hnonneg', hpositive.trans_le ((le_iff_magnitude hnonneg hnonneg').mp hle')⟩
  refine (isRounding_div hx (isFinite_of_le hx hle hfinite) hy hfinite').le
    (isRounding_div hx' hfinite hy' (isFinite_of_le (pos_iff.mp hy').1 hle' hfinite')) ?_
  rw [le_iff_magnitude hx hx'] at hle
  rw [le_iff_magnitude (pos_iff.mp hy').1 (pos_iff.mp hy).1] at hle'
  exact div_le_div₀ (magnitude_nonneg _) hle (pos_iff.mp hy').2 hle'

end

/-! ## Multiplication and natural numbers -/

theorem log2_shiftLeft {n : Nat} (hn : n ≠ 0) (k : Nat) : (n <<< k).log2 = n.log2 + k := by
  induction k with
  | zero => rfl
  | succ k ih =>
    rw [Nat.shiftLeft_succ, Nat.log2_two_mul (by rw [Nat.shiftLeft_eq]; positivity), ih, Nat.add_assoc]

/-- A natural number with any exponent is rounded, shifted to the left first if it has too few digits. -/
theorem rounds_round {n : Nat} (hn : 0 < n) (e : Int) :
    Rounds (n * 2 ^ e) (UnpackedFloat.round .binary64 .positive n e) := by
  unfold UnpackedFloat.round UnpackedFloat.decreaseExponent
  dsimp only
  generalize hk : (e - Format.binary64.targetExponent (totalExponent n e)).toNat = k
  have htotal : totalExponent (n <<< k) (e - k) = totalExponent n e := by
    rw [totalExponent, totalExponent, log2_shiftLeft hn.ne']
    push_cast
    ring
  have hrounds := rounds_roundWithAccuracy (a := .exact) (y := (n <<< k : Nat)) (m := n <<< k) (e := e - k) rfl
    (by rw [htotal]; omega)
  have hvalue : ((n <<< k : Nat) : ℚ) * 2 ^ (e - k) = n * 2 ^ e := by
    rw [zpow_sub₀ two_ne_zero, zpow_natCast, Nat.shiftLeft_eq, Nat.cast_mul, Nat.cast_pow, Nat.cast_ofNat, mul_assoc,
      mul_div_cancel₀ _ (pow_ne_zero k two_ne_zero)]
  rw [hvalue] at hrounds
  exact hrounds

theorem rounds_ofNat (n : Nat) : Rounds n (UnpackedFloat.ofNat .binary64 n) := by
  unfold UnpackedFloat.ofNat UnpackedFloat.ofInt UnpackedFloat.normalize
  rcases Nat.eq_zero_or_pos n with rfl | hn
  · rw [Nat.cast_zero]
    exact rounds_zero .positive
  · rw [compare_gt_iff_gt.mpr (Int.natCast_pos.mpr hn)]
    have hrounds := rounds_round hn 0
    rwa [zpow_zero, mul_one] at hrounds

theorem isRounding_toFloat (n : UInt64) : IsRounding n.toNat n.toFloat :=
  ⟨_, rounds_ofNat n.toNat, rfl⟩

/-- A product with enough digits is rounded. -/
theorem rounds_mul_finite {m n : Nat} {e f : Int} (hm : 0 < m) (hn : 0 < n) (hdigits : 2 ^ 52 ≤ m * n) :
    Rounds (m * 2 ^ e * (n * 2 ^ f))
      (UnpackedFloat.mul .binary64 (.finite .positive m e hm) (.finite .positive n f hn)) := by
  have hlog := (Nat.le_log2 (Nat.mul_pos hm hn).ne').mpr hdigits
  have hrounds := rounds_roundWithAccuracy (a := .exact) (y := (m * n : Nat)) (m := m * n) (e := e + f) rfl (by
    rw [targetExponent_binary64, totalExponent]
    omega)
  have hvalue : ((m * n : Nat) : ℚ) * 2 ^ (e + f) = m * 2 ^ e * (n * 2 ^ f) := by
    rw [zpow_add₀ two_ne_zero]
    push_cast
    ring
  rw [hvalue] at hrounds
  exact hrounds

/-- Literals below `2 ^ 53` are made by a multiplication by one. -/
def one : Float :=
  Float.ofBits 0x3FF0000000000000

theorem unpack_one : one.toModel.unpack = .finite .positive (2 ^ 52) (-52) (by decide) :=
  rfl

/-- A factor without a leading zero gives enough digits. -/
theorem isRounding_mul {x y : Float} (hx : 0.0 ≤ x) (hfinite : x.isFinite = true) {n : Nat} {f : Int} {hn : 0 < n}
    (hy : y.toModel.unpack = .finite .positive n f hn) (hdigits : 2 ^ 52 ≤ n) :
    IsRounding (magnitude x.toModel.unpack * (n * 2 ^ f)) (x * y) := by
  refine ⟨UnpackedFloat.mul .binary64 x.toModel.unpack y.toModel.unpack, ?_, rfl⟩
  have hunsigned := nonneg_iff.mp hx
  have hfinite : x.toModel.unpack.isFinite = true := hfinite
  rw [hy]
  cases hmodel : x.toModel.unpack with
  | notANumber => rw [hmodel] at hunsigned; cases hunsigned
  | infinity s => rw [hmodel] at hfinite; cases hfinite
  | zero s =>
    rw [magnitude_zero, zero_mul]
    exact rounds_zero _
  | finite s m e hm =>
    rw [hmodel] at hunsigned
    obtain ⟨rfl, -⟩ := hunsigned
    exact rounds_mul_finite hm hn (hdigits.trans (Nat.le_mul_of_pos_left n hm))

/-- **Multiplication is monotone**, for such a factor. -/
theorem mul_le_mul_right {x x' y : Float} (hx : 0.0 ≤ x) (hle : x ≤ x') (hfinite : x'.isFinite = true) {n : Nat}
    {f : Int} {hn : 0 < n} (hy : y.toModel.unpack = .finite .positive n f hn) (hdigits : 2 ^ 52 ≤ n) :
    x * y ≤ x' * y := by
  have hx' := nonneg_of_le hx hle
  refine (isRounding_mul hx (isFinite_of_le hx hle hfinite) hy hdigits).le (isRounding_mul hx' hfinite hy hdigits) ?_
  exact mul_le_mul_of_nonneg_right ((le_iff_magnitude hx hx').mp hle) (mul_nonneg n.cast_nonneg (two_zpow_pos f).le)

theorem isRounding_mul_one {x : Float} (hx : 0.0 ≤ x) (hfinite : x.isFinite = true) :
    IsRounding (magnitude x.toModel.unpack) (x * one) := by
  have hrounding := isRounding_mul hx hfinite unpack_one le_rfl
  have hone : ((2 ^ 52 : Nat) : ℚ) * 2 ^ (-52 : Int) = 1 := by norm_num
  rwa [hone, mul_one] at hrounding

theorem isRounding_ofNat_of_le {n : Nat} (hn : 2 ^ 53 ≤ n) : IsRounding n (Float.ofNat n) := by
  have hmodel : (Float.ofNat n).toModel.unpack
      = UnpackedFloat.unpack .binary64 (UnpackedFloat.pack .binary64 (UnpackedFloat.ofScientific .binary64 n 0)) := by
    show (Float.ofScientific n false 0).toModel.unpack = _
    rw [Float.ofScientific, dif_neg (by omega)]
    rfl
  refine ⟨_, ?_, hmodel⟩
  have hn' : n ≠ 0 := by omega
  unfold UnpackedFloat.ofScientific
  have hpower : (2 : Int) ^ Format.binary64.exponentBits = 2048 := rfl
  rw [dif_neg hn', if_neg (by decide), if_neg (by rw [hpower]; omega), if_pos (by decide)]
  have hrounds := rounds_mul_finite (e := -53) (f := 0) (m := n <<< 53) (n := 10 ^ 0)
    (Nat.shiftLeft_pos_iff.mpr (Nat.pos_of_ne_zero hn')) (by decide) (by rw [Nat.shiftLeft_eq]; omega)
  have hvalue : ((n <<< 53 : Nat) : ℚ) * 2 ^ (-53 : Int) * ((10 ^ 0 : Nat) * 2 ^ (0 : Int)) = n := by
    rw [Nat.shiftLeft_eq, pow_zero, Nat.cast_one, zpow_zero, one_mul, mul_one, Nat.cast_mul, Nat.cast_pow,
      Nat.cast_ofNat, zpow_neg]
    exact mul_inv_cancel_right₀ (by norm_num) _
  rw [hvalue] at hrounds
  exact hrounds

theorem isRounding_toUInt64_toFloat {n : Nat} (hn : n < 2 ^ 53) : IsRounding n n.toUInt64.toFloat := by
  have hvalue : n.toUInt64.toNat = n := UInt64.toNat_ofNat_of_lt (hn.trans (by decide))
  have hrounding := isRounding_toFloat n.toUInt64
  rwa [hvalue] at hrounding

theorem isRounding_ofNat_of_lt {n : Nat} (hn : n < 2 ^ 53) :
    IsRounding (magnitude n.toUInt64.toFloat.toModel.unpack) (Float.ofNat n) := by
  have hrounding := isRounding_toUInt64_toFloat hn
  have hlargest := isRounding_toFloat (2 ^ 53)
  have hfinite : n.toUInt64.toFloat.isFinite = true :=
    isFinite_of_le hrounding.nonneg (hrounding.le hlargest (by exact_mod_cast hn.le)) (by decide)
  have hone : Float.ofNat n = n.toUInt64.toFloat * one := by
    show Float.ofScientific n false 0 = _
    rw [Float.ofScientific, dif_pos ⟨hn, by decide⟩]
    rfl
  rw [hone]
  exact isRounding_mul_one hrounding.nonneg hfinite

theorem ofNat_nonneg (n : Nat) : 0.0 ≤ Float.ofNat n := by
  rcases Nat.lt_or_ge n (2 ^ 53) with hn | hn
  · exact (isRounding_ofNat_of_lt hn).nonneg
  · exact (isRounding_ofNat_of_le hn).nonneg

theorem ofNat_le_ofNat_of_lt {m n : Nat} (hn : n < 2 ^ 53) (hle : m ≤ n) : Float.ofNat m ≤ Float.ofNat n := by
  have hrounding := isRounding_toUInt64_toFloat (hle.trans_lt hn)
  have hrounding' := isRounding_toUInt64_toFloat hn
  refine (isRounding_ofNat_of_lt (hle.trans_lt hn)).le (isRounding_ofNat_of_lt hn) ?_
  rw [← le_iff_magnitude hrounding.nonneg hrounding'.nonneg]
  exact hrounding.le hrounding' (Nat.cast_le.mpr hle)

/-- A larger natural number does not become a smaller double. -/
theorem ofNat_le_ofNat {m n : Nat} (hle : m ≤ n) : Float.ofNat m ≤ Float.ofNat n := by
  rcases Nat.lt_or_ge n (2 ^ 53) with hn | hn
  · exact ofNat_le_ofNat_of_lt hn hle
  rcases Nat.lt_or_ge m (2 ^ 53) with hm | hm
  · -- literals are made in two ways, and the two meet here
    have hlargest : Float.ofNat m ≤ Float.ofNat (2 ^ 53 - 1) := ofNat_le_ofNat_of_lt (by decide) (by omega)
    have hmeet : Float.ofNat (2 ^ 53 - 1) ≤ Float.ofNat (2 ^ 53) := by decide
    have hsmallest : Float.ofNat (2 ^ 53) ≤ Float.ofNat n :=
      (isRounding_ofNat_of_le le_rfl).le (isRounding_ofNat_of_le hn) (Nat.cast_le.mpr hn)
    exact le_trans (ofNat_nonneg m) hlargest (le_trans (ofNat_nonneg _) hmeet hsmallest)
  · exact (isRounding_ofNat_of_le hm).le (isRounding_ofNat_of_le hn) (Nat.cast_le.mpr hle)

end HilBridge.Binary64
