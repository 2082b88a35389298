import HilBridge.Proofs.Number.FloatSum
import HilBridge.Proofs.Number.FloatValue

/-!
# `HilBridge.Proofs.Number.FloatRounding` — rounding to double precision

A result of arithmetic comes as a mantissa that was cut short, with two bits on what was cut off: whether it is half a
unit or more, and whether it is neither nothing nor a half. These bits say all that rounding has to know of the exact
result (`Represents`). The unit is fixed by the size of the result (`InBinade`).

Rounding to integers is monotone, and so is rounding to doubles (`Rounds.mono`): where the units of two numbers differ,
the power of two between them is a double. What is too large becomes infinite, which is in order as well
(`IsRounding.le`).
-/

namespace HilBridge.Binary64

open Float.Model (UnpackedFloat Format totalExponent)
open Float.Model.UnpackedFloat (ExtendedMantissa Accuracy accuracyOfFraction)

/-! ## What is cut off -/

/-- The number that a mantissa and its two bits stand for, as far as they tell. -/
def Represents (em : ExtendedMantissa) (x : ℚ) : Prop :=
  match em.roundBit, em.stickyBit with
  | false, false => x = em.mantissa
  | false, true => em.mantissa < x ∧ x < em.mantissa + 1 / 2
  | true, false => x = em.mantissa + 1 / 2
  | true, true => em.mantissa + 1 / 2 < x ∧ x < em.mantissa + 1

namespace Represents

variable {em em' : ExtendedMantissa} {x x' : ℚ}

theorem le (h : Represents em x) : (em.mantissa : ℚ) ≤ x := by
  obtain ⟨m, r, s⟩ := em
  cases r <;> cases s <;> simp only [Represents] at h ⊢ <;> linarith

theorem lt (h : Represents em x) : x < em.mantissa + 1 := by
  obtain ⟨m, r, s⟩ := em
  cases r <;> cases s <;> simp only [Represents] at h ⊢ <;> linarith

/-- A digit that is cut off moves on into the first bit, which moves on into the second. -/
theorem shiftRightOne (h : Represents em x) : Represents em.shiftRightOne (x / 2) := by
  obtain ⟨m, r, s⟩ := em
  have hhalves : (m : ℚ) = 2 * (m / 2 : Nat) + (m % 2 : Nat) := by
    exact_mod_cast (Nat.div_add_mod m 2).symm
  rcases Nat.mod_two_eq_zero_or_one m with hm | hm
  · have hbit : (m % 2 != 0) = false := by rw [hm]; rfl
    rw [hm, Nat.cast_zero] at hhalves
    cases r <;> cases s <;>
      simp only [Represents, ExtendedMantissa.shiftRightOne, hbit, Bool.or_true, Bool.or_false] at h ⊢ <;>
      first | linarith | exact ⟨by linarith, by linarith⟩
  · have hbit : (m % 2 != 0) = true := by rw [hm]; rfl
    rw [hm, Nat.cast_one] at hhalves
    cases r <;> cases s <;>
      simp only [Represents, ExtendedMantissa.shiftRightOne, hbit, Bool.or_true, Bool.or_false] at h ⊢ <;>
      first | linarith | exact ⟨by linarith, by linarith⟩

theorem shiftRight (h : Represents em x) (n : Nat) : Represents (em >>> n) (x / 2 ^ n) := by
  show Represents (n.repeat ExtendedMantissa.shiftRightOne em) _
  induction n with
  | zero => rwa [pow_zero, div_one]
  | succ n ih =>
    rw [pow_succ, ← div_div]
    exact ih.shiftRightOne

theorem le_roundedMantissa (em : ExtendedMantissa) : em.mantissa ≤ em.roundedMantissa := by
  obtain ⟨m, r, s⟩ := em
  cases r <;> cases s <;>
    simp only [ExtendedMantissa.roundedMantissa, ExtendedMantissa.accuracy, Accuracy.roundToNearestEven] <;> omega

theorem roundedMantissa_le (em : ExtendedMantissa) : em.roundedMantissa ≤ em.mantissa + 1 := by
  obtain ⟨m, r, s⟩ := em
  cases r <;> cases s <;>
    simp only [ExtendedMantissa.roundedMantissa, ExtendedMantissa.accuracy, Accuracy.roundToNearestEven] <;> omega

/-- Rounding to an integer is monotone. -/
theorem roundedMantissa_mono (h : Represents em x) (h' : Represents em' x') (hle : x ≤ x') :
    em.roundedMantissa ≤ em'.roundedMantissa := by
  have hfloor : em.mantissa < em'.mantissa + 1 := by
    exact_mod_cast lt_of_le_of_lt h.le (lt_of_le_of_lt hle h'.lt)
  rcases (Nat.lt_succ_iff.mp hfloor).lt_or_eq with hlt | heq
  · exact (roundedMantissa_le em).trans (hlt.trans_le (le_roundedMantissa em'))
  · -- between the same two integers it is the bits that decide
    obtain ⟨m, r, s⟩ := em
    obtain ⟨m', r', s'⟩ := em'
    obtain rfl : m = m' := heq
    cases r <;> cases s <;> cases r' <;> cases s' <;>
      simp only [Represents, ExtendedMantissa.roundedMantissa, ExtendedMantissa.accuracy,
        Accuracy.roundToNearestEven] at h h' ⊢ <;>
      first | omega | linarith

end Represents

/-- The bits that are computed from a remainder stand for the fraction that it makes of the divisor. -/
theorem represents_fraction (q : Nat) {r d : Nat} (hr : r < d) :
    Represents (.ofMantissaAndAccuracy q (accuracyOfFraction r d)) (q + r / d) := by
  have hd : (0 : ℚ) < d := Nat.cast_pos.mpr (Nat.zero_lt_of_lt hr)
  have hbelow : (r : ℚ) / d < 1 := (div_lt_iff₀ hd).mpr (by rw [one_mul]; exact Nat.cast_lt.mpr hr)
  unfold accuracyOfFraction
  by_cases hzero : r = 0
  · rw [if_pos hzero, hzero, Nat.cast_zero, zero_div, add_zero]
    rfl
  rw [if_neg hzero]
  have hpositive : (0 : ℚ) < r / d := div_pos (Nat.cast_pos.mpr (Nat.pos_of_ne_zero hzero)) hd
  rcases lt_trichotomy (2 * r) d with hlt | heq | hgt
  · have hcast : 2 * (r : ℚ) < d := by exact_mod_cast hlt
    have hhalf : (r : ℚ) / d < 1 / 2 := (div_lt_iff₀ hd).mpr (by linarith)
    rw [compare_lt_iff_lt.mpr hlt]
    show (q : ℚ) < q + r / d ∧ (q + r / d : ℚ) < q + 1 / 2
    exact ⟨by linarith, by linarith⟩
  · have hcast : 2 * (r : ℚ) = d := by exact_mod_cast heq
    have hhalf : (r : ℚ) / d = 1 / 2 := (div_eq_iff hd.ne').mpr (by linarith)
    rw [compare_eq_iff_eq.mpr heq, hhalf]
    rfl
  · have hcast : (d : ℚ) < 2 * r := by exact_mod_cast hgt
    have hhalf : 1 / 2 < (r : ℚ) / d := (lt_div_iff₀ hd).mpr (by linarith)
    rw [compare_gt_iff_gt.mpr hgt]
    show (q + 1 / 2 : ℚ) < q + r / d ∧ (q + r / d : ℚ) < q + 1
    exact ⟨by linarith, by linarith⟩

theorem represents_div (n : Nat) {d : Nat} (hd : 0 < d) :
    Represents (.ofMantissaAndAccuracy (n / d) (accuracyOfFraction (n % d) d)) (n / d) := by
  have hd' : (d : ℚ) ≠ 0 := Nat.cast_ne_zero.mpr hd.ne'
  have hdivision : (n : ℚ) = (n / d : Nat) * d + (n % d : Nat) := by exact_mod_cast (Nat.div_add_mod' n d).symm
  have hquotient : (n : ℚ) / d = (n / d : Nat) + (n % d : Nat) / d := by
    rw [div_eq_iff hd', add_mul, div_mul_cancel₀ _ hd']
    exact hdivision
  rw [hquotient]
  exact represents_fraction (n / d) (Nat.mod_lt n hd)

/-! ## Units -/

/-- A number whose mantissa, counted in units of that exponent, has all the digits it can have. -/
structure InBinade (x : ℚ) (t : Int) : Prop where
  exponent : -1074 ≤ t
  lt : x < 2 ^ (53 + t)
  le : t ≠ -1074 → 2 ^ (52 + t) ≤ x

theorem InBinade.le_of_le {x x' : ℚ} {t t' : Int} (h : InBinade x t) (h' : InBinade x' t') (hle : x ≤ x') :
    t ≤ t' := by
  by_contra hlt
  have hpower := h.le (by have := h'.exponent; omega)
  exact absurd ((two_zpow_le (by omega)).trans (hpower.trans hle)) h'.lt.not_ge

section
variable {x x' : ℚ} {t : Int} {em : ExtendedMantissa}

theorem InBinade.roundedMantissa_le (h : InBinade x t) (hem : Represents em (x / 2 ^ t)) :
    em.roundedMantissa ≤ 2 ^ 53 := by
  have hbelow : x / 2 ^ t < 2 ^ 53 := by
    rw [div_lt_iff₀ (two_zpow_pos t), ← zpow_natCast, ← zpow_add₀ two_ne_zero]
    exact h.lt
  have hmantissa : em.mantissa < 2 ^ 53 := by exact_mod_cast hem.le.trans_lt hbelow
  exact (Represents.roundedMantissa_le em).trans hmantissa

theorem InBinade.le_roundedMantissa (h : InBinade x t) (hem : Represents em (x / 2 ^ t)) (ht : t ≠ -1074) :
    2 ^ 52 ≤ em.roundedMantissa := by
  have habove : (2 : ℚ) ^ 52 ≤ x / 2 ^ t := by
    rw [le_div_iff₀ (two_zpow_pos t), ← zpow_natCast, ← zpow_add₀ two_ne_zero]
    exact h.le ht
  have hmantissa : 2 ^ 52 < em.mantissa + 1 := by exact_mod_cast habove.trans_lt hem.lt
  exact (Nat.lt_succ_iff.mp hmantissa).trans (Represents.le_roundedMantissa em)

end

/-! ## Rounding -/

/-- A number that is not negative, as rounding leaves it: possibly too large for its exponent to be written. -/
def IsRounded : UnpackedFloat → Prop
  | .zero _ => True
  | .finite s m e _ => s = .positive ∧ IsNormalized m e
  | _ => False

/-- The number that another one is rounded to. -/
structure Rounds (x : ℚ) (r : UnpackedFloat) : Prop where
  isRounded : IsRounded r
  rounded : ∃ t em, InBinade x t ∧ Represents em (x / 2 ^ t) ∧ magnitude r = em.roundedMantissa * 2 ^ t

/-- A larger number is not rounded to a smaller one. -/
theorem Rounds.mono {x x' : ℚ} {r r' : UnpackedFloat} (h : Rounds x r) (h' : Rounds x' r') (hle : x ≤ x') :
    magnitude r ≤ magnitude r' := by
  obtain ⟨t, em, hbinade, hem, hr⟩ := h.rounded
  obtain ⟨t', em', hbinade', hem', hr'⟩ := h'.rounded
  rw [hr, hr']
  rcases (hbinade.le_of_le hbinade' hle).lt_or_eq with hlt | rfl
  · -- the first power of two of the larger unit is between them
    have hlow : (em.roundedMantissa : ℚ) ≤ 2 ^ 53 := by exact_mod_cast hbinade.roundedMantissa_le hem
    have hhigh : (2 : ℚ) ^ 52 ≤ em'.roundedMantissa := by
      exact_mod_cast hbinade'.le_roundedMantissa hem' (by have := hbinade.exponent; omega)
    calc (em.roundedMantissa : ℚ) * 2 ^ t ≤ 2 ^ 53 * 2 ^ t :=
          mul_le_mul_of_nonneg_right hlow (two_zpow_pos t).le
      _ = 2 ^ 52 * 2 ^ (t + 1) := by
          rw [two_zpow_succ]
          ring
      _ ≤ em'.roundedMantissa * 2 ^ t' :=
          mul_le_mul hhigh (two_zpow_le hlt) (two_zpow_pos _).le (Nat.cast_nonneg _)
  · have hunits := hem.roundedMantissa_mono hem' (div_le_div_of_nonneg_right hle (two_zpow_pos t).le)
    exact mul_le_mul_of_nonneg_right (Nat.cast_le.mpr hunits) (two_zpow_pos t).le

theorem rounds_zero (s : UnpackedFloat.Sign) : Rounds 0 (.zero s) := by
  refine ⟨trivial, -1074, ⟨0, false, false⟩, ⟨le_rfl, two_zpow_pos _, fun h => absurd rfl h⟩, ?_, ?_⟩
  · rw [zero_div]
    rfl
  · show (0 : ℚ) = (0 : Nat) * _
    rw [Nat.cast_zero, zero_mul]

theorem targetExponent_binary64 (total : Int) : Format.binary64.targetExponent total = max (total - 53) (-1074) :=
  rfl

theorem mantissa_ofMantissaAndAccuracy (m : Nat) (a : Accuracy) :
    (ExtendedMantissa.ofMantissaAndAccuracy m a).mantissa = m := by
  rcases a with _ | (_ | _ | _) <;> rfl

open Float.Model.UnpackedFloat (roundWithAccuracy shiftToTargetExponent shiftToExponent)

/-- The exponent that a mantissa is shifted to is the unit of the number. -/
theorem inBinade_targetExponent {m : Nat} {e : Int} {a : Accuracy} {y : ℚ}
    (h : Represents (.ofMantissaAndAccuracy m a) y) (he : e ≤ Format.binary64.targetExponent (totalExponent m e)) :
    InBinade (y * 2 ^ e) (Format.binary64.targetExponent (totalExponent m e)) := by
  rw [targetExponent_binary64, totalExponent] at *
  have hlow : (m : ℚ) ≤ y := mantissa_ofMantissaAndAccuracy m a ▸ h.le
  have hhigh : y < m + 1 := mantissa_ofMantissaAndAccuracy m a ▸ h.lt
  refine ⟨le_max_right _ _, ?lt, fun ht => ?le⟩
  case lt =>
    have hdigits : (m : ℚ) + 1 ≤ 2 ^ (m.log2 + 1) := by exact_mod_cast Nat.lt_log2_self
    calc y * 2 ^ e < 2 ^ (m.log2 + 1) * 2 ^ e := by
          exact mul_lt_mul_of_pos_right (hhigh.trans_le hdigits) (two_zpow_pos e)
      _ = 2 ^ ((m.log2 : Int) + 1 + e) := by
          rw [← zpow_natCast, ← zpow_add₀ two_ne_zero]
          push_cast
          rfl
      _ ≤ _ := two_zpow_le (by omega)
  case le =>
    have hm : m ≠ 0 := by
      rintro rfl
      rw [Nat.log2_zero] at he ht
      omega
    have hdigits : (2 : ℚ) ^ m.log2 ≤ m := by exact_mod_cast Nat.log2_self_le hm
    calc (2 : ℚ) ^ (52 + max ((m.log2 : Int) + 1 + e - 53) (-1074)) = 2 ^ m.log2 * 2 ^ e := by
          rw [← zpow_natCast, ← zpow_add₀ two_ne_zero]
          congr 1
          omega
      _ ≤ y * 2 ^ e := by
          exact mul_le_mul_of_nonneg_right (hdigits.trans hlow) (two_zpow_pos e).le

theorem shiftToTargetExponent_eq {m : Nat} {e : Int} (a : Accuracy)
    (he : e ≤ Format.binary64.targetExponent (totalExponent m e)) :
    shiftToTargetExponent .binary64 m e a
      = (ExtendedMantissa.ofMantissaAndAccuracy m a >>> (Format.binary64.targetExponent (totalExponent m e) - e).toNat,
        Format.binary64.targetExponent (totalExponent m e)) := by
  unfold shiftToTargetExponent shiftToExponent
  dsimp only
  rw [Int.toNat_of_nonneg (by omega), add_sub_cancel]

/-- A mantissa that is not too long stays as it is. -/
theorem shiftToTargetExponent_of_lt {r : Nat} {t : Int} (hr : r < 2 ^ 53) (ht : -1074 ≤ t) :
    shiftToTargetExponent .binary64 r t .exact = (⟨r, false, false⟩, t) := by
  have hlog : r.log2 < 53 := by
    by_cases hzero : r = 0
    · rw [hzero, Nat.log2_zero]
      decide
    · exact (Nat.log2_lt hzero).mpr hr
  have hshift : (Format.binary64.targetExponent (totalExponent r t) - t).toNat = 0 := by
    rw [targetExponent_binary64, totalExponent]
    omega
  unfold shiftToTargetExponent shiftToExponent
  dsimp only
  rw [hshift]
  exact Prod.ext rfl (add_zero t)

/-- A mantissa that rounding made one digit too long loses that digit. -/
theorem shiftToTargetExponent_full {t : Int} (ht : -1074 ≤ t) :
    shiftToTargetExponent .binary64 (2 ^ 53) t .exact = (⟨2 ^ 52, false, false⟩, t + 1) := by
  have hshift : (Format.binary64.targetExponent (totalExponent (2 ^ 53) t) - t).toNat = 1 := by
    rw [targetExponent_binary64, totalExponent, Nat.log2_two_pow]
    omega
  unfold shiftToTargetExponent shiftToExponent
  dsimp only
  rw [hshift]
  rfl

/-- What is represented as a mantissa with an exponent is rounded. -/
theorem rounds_roundWithAccuracy {m : Nat} {e : Int} {a : Accuracy} {y : ℚ}
    (h : Represents (.ofMantissaAndAccuracy m a) y) (he : e ≤ Format.binary64.targetExponent (totalExponent m e)) :
    Rounds (y * 2 ^ e) (roundWithAccuracy .binary64 .positive m e a) := by
  have hbinade := inBinade_targetExponent h he
  unfold roundWithAccuracy
  rw [shiftToTargetExponent_eq a he]
  generalize Format.binary64.targetExponent (totalExponent m e) = t at *
  have hem : Represents (ExtendedMantissa.ofMantissaAndAccuracy m a >>> (t - e).toNat) (y * 2 ^ e / 2 ^ t) := by
    have hshift : y * (2 : ℚ) ^ e / 2 ^ t = y / 2 ^ (t - e).toNat := by
      rw [← zpow_natCast, Int.toNat_of_nonneg (by omega), zpow_sub₀ two_ne_zero, div_div_eq_mul_div]
    rw [hshift]
    exact h.shiftRight _
  generalize ExtendedMantissa.ofMantissaAndAccuracy m a >>> (t - e).toNat = em at *
  have hexponent := hbinade.exponent
  have hleading := hbinade.le_roundedMantissa hem
  dsimp only
  -- rounding up may make the mantissa one digit too long, and then it is shifted once more
  rcases (hbinade.roundedMantissa_le hem).lt_or_eq with hlt | hfull
  · rw [shiftToTargetExponent_of_lt hlt hexponent]
    dsimp only
    by_cases hzero : em.roundedMantissa = 0
    · rw [dif_pos hzero]
      exact ⟨trivial, t, em, hbinade, hem, by rw [hzero, Nat.cast_zero, zero_mul]; rfl⟩
    · rw [dif_neg hzero]
      exact ⟨⟨rfl, hlt, hexponent, hleading⟩, t, em, hbinade, hem, rfl⟩
  · rw [hfull, shiftToTargetExponent_full hexponent]
    dsimp only
    rw [dif_neg (by decide)]
    refine ⟨⟨rfl, by decide, by omega, fun _ => by decide⟩, t, em, hbinade, hem, ?_⟩
    rw [hfull]
    show ((2 ^ 52 : Nat) : ℚ) * 2 ^ (t + 1) = _
    rw [two_zpow_succ]
    push_cast
    ring

/-! ## Rounded numbers as doubles -/

/-- What is too large to be written becomes infinite. -/
theorem isUnsigned_unpack_pack {r : UnpackedFloat} (h : IsRounded r) :
    IsUnsigned (UnpackedFloat.unpack .binary64 (UnpackedFloat.pack .binary64 r))
      ∧ magnitude (UnpackedFloat.unpack .binary64 (UnpackedFloat.pack .binary64 r)) = min (magnitude r) (2 ^ 1024) := by
  cases r with
  | notANumber => cases h
  | infinity s => cases h
  | zero s =>
    have hzero : UnpackedFloat.unpack .binary64 (UnpackedFloat.pack .binary64 (.zero s)) = .zero s := by
      cases s <;> rfl
    rw [hzero]
    exact ⟨trivial, (min_eq_left (pow_nonneg (by norm_num) 1024)).symm⟩
  | finite s m e hm =>
    obtain ⟨rfl, hnormalized⟩ := h
    rcases Int.lt_or_le 971 e with he | he
    · rw [pack_of_lt _ _ he, unpack_packedInfinity]
      refine ⟨rfl, (min_eq_right ?_).symm⟩
      have hleading : (2 : ℚ) ^ 52 ≤ m := by exact_mod_cast hnormalized.leading (by omega)
      calc (2 : ℚ) ^ 1024 = 2 ^ 52 * 2 ^ (972 : Int) := by
            rw [show (972 : Int) = ((972 : Nat) : Int) from rfl, zpow_natCast, ← pow_add]
        _ ≤ (m : ℚ) * 2 ^ e := mul_le_mul hleading (two_zpow_le he) (two_zpow_pos _).le m.cast_nonneg
    · rw [unpack_pack_of_le hnormalized he]
      exact ⟨⟨rfl, hnormalized, he⟩, (min_eq_left (hnormalized.lt_infinity he).le).symm⟩

/-- A double that some number is rounded to, infinity if that number is too large. -/
def IsRounding (q : ℚ) (x : Float) : Prop :=
  ∃ r, Rounds q r ∧ x.toModel.unpack = UnpackedFloat.unpack .binary64 (UnpackedFloat.pack .binary64 r)

theorem IsRounding.nonneg {q : ℚ} {x : Float} (h : IsRounding q x) : 0.0 ≤ x := by
  obtain ⟨r, hr, hx⟩ := h
  rw [nonneg_iff, hx]
  exact (isUnsigned_unpack_pack hr.isRounded).1

theorem IsRounding.le {p q : ℚ} {x y : Float} (hx : IsRounding p x) (hy : IsRounding q y) (hle : p ≤ q) : x ≤ y := by
  rw [le_iff_magnitude hx.nonneg hy.nonneg]
  obtain ⟨r, hr, hx⟩ := hx
  obtain ⟨s, hs, hy⟩ := hy
  rw [hx, hy, (isUnsigned_unpack_pack hr.isRounded).2, (isUnsigned_unpack_pack hs.isRounded).2]
  exact min_le_min_right _ (hr.mono hs hle)

end HilBridge.Binary64
