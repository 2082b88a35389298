import HilBridge.Proofs.Number.FloatMonotone
import HilBridge.Proofs.Number.FloatSum

/-!
# `HilBridge.Proofs.Number.FloatInterval` — as far below a number as above it

Around a finite number, what lies below by some width is not above what lies above by it (`sub_le_add`), whatever is
rounded on either side and even where the width is infinite. Both ends are integers with one exponent, rounded, and
rounding keeps the order of integers of either sign (`RoundsSigned.compare_isLE`): what holds of positive ones carries
over to negative ones, since rounding and the order only turn around with the sign.
-/

namespace HilBridge.Binary64

open Float.Model (UnpackedFloat Format)

/-! ## The other sign -/

/-- The order turns around with the sign. -/
theorem compare_neg (x y : UnpackedFloat) : x.neg.compare y.neg = y.compare x := by
  cases x with
  | notANumber => cases y <;> rfl
  | infinity s | zero s =>
    cases y with
    | notANumber => cases s <;> rfl
    | infinity t | zero t | finite t n f hn => cases s <;> cases t <;> rfl
  | finite s m e hm =>
    cases y with
    | notANumber => cases s <;> rfl
    | infinity t | zero t => cases s <;> cases t <;> rfl
    | finite t n f hn =>
      cases s <;> cases t
      case positive.positive => exact congrArg some (compare_magnitude_swap e f m n).symm
      case negative.negative => exact congrArg some (compare_magnitude_swap f e n m)
      all_goals rfl

theorem round_negative (n : Nat) (e : Int) :
    UnpackedFloat.round .binary64 .negative n e = (UnpackedFloat.round .binary64 .positive n e).neg := by
  unfold UnpackedFloat.round UnpackedFloat.roundWithAccuracy
  dsimp only
  split <;> rfl

theorem unpack_pack_neg {r : UnpackedFloat} (h : IsRounded r) :
    UnpackedFloat.unpack .binary64 (UnpackedFloat.pack .binary64 r.neg)
      = (UnpackedFloat.unpack .binary64 (UnpackedFloat.pack .binary64 r)).neg := by
  cases r with
  | notANumber => cases h
  | infinity s => cases h
  | zero s => cases s <;> rfl
  | finite s m e hm =>
    show UnpackedFloat.unpack .binary64 (UnpackedFloat.pack .binary64 (.finite (-s) m e hm)) = _
    rcases Int.lt_or_le 971 e with he | he
    · rw [pack_of_lt _ _ he, pack_of_lt _ _ he, unpack_packedInfinity, unpack_packedInfinity]
      rfl
    · rw [unpack_pack_of_le h.2 he, unpack_pack_of_le h.2 he]
      rfl

/-! ## Integers with an exponent -/

/-- What an integer of either sign is rounded to. -/
inductive RoundsSigned : ℚ → UnpackedFloat → Prop
  | unsigned {q : ℚ} {r : UnpackedFloat} (hq : 0 ≤ q) (h : Rounds q r) : RoundsSigned q r
  | negative {q : ℚ} {r : UnpackedFloat} (hq : 0 < q) (h : Rounds q r) : RoundsSigned (-q) r.neg

theorem roundsSigned_normalize (k e : Int) :
    RoundsSigned (k * 2 ^ e) (UnpackedFloat.normalize .binary64 k e .positive) := by
  unfold UnpackedFloat.normalize
  rcases lt_trichotomy k 0 with hneg | rfl | hpos
  · rw [compare_lt_iff_lt.mpr hneg]
    dsimp only
    obtain ⟨n, rfl⟩ : ∃ n : Nat, k = -n := ⟨(-k).toNat, by omega⟩
    have hn : 0 < n := by omega
    rw [neg_neg, Int.toNat_natCast, round_negative, Int.cast_neg, Int.cast_natCast, neg_mul]
    exact .negative (mul_pos (Nat.cast_pos.mpr hn) (two_zpow_pos e)) (rounds_round hn e)
  · rw [Int.cast_zero, zero_mul]
    exact .unsigned le_rfl (rounds_zero .positive)
  · rw [compare_gt_iff_gt.mpr hpos]
    dsimp only
    obtain ⟨n, rfl⟩ := Int.eq_ofNat_of_zero_le hpos.le
    have hn : 0 < n := by omega
    rw [Int.toNat_natCast, Int.cast_natCast]
    exact .unsigned (mul_nonneg (Nat.cast_nonneg n) (two_zpow_pos e).le) (rounds_round hn e)

/-- Nothing that is not negative is below something negated. -/
theorem compare_neg_isLE {x y : UnpackedFloat} (hx : IsUnsigned x) (hy : IsUnsigned y) :
    (x.neg.compare y).any (·.isLE) = true := by
  cases x with
  | notANumber => cases hx
  | infinity s =>
    cases hx
    cases y with
    | notANumber => cases hy
    | infinity t | finite t n f hn => cases t <;> rfl
    | zero t => rfl
  | zero s =>
    cases y with
    | notANumber => cases hy
    | infinity t => cases hy; rfl
    | zero t => rfl
    | finite t n f hn => cases hy.1; rfl
  | finite s m e hm =>
    cases hx.1
    cases y with
    | notANumber => cases hy
    | infinity t => cases hy; rfl
    | zero t => rfl
    | finite t n f hn => cases hy.1; rfl

/-- **Rounding keeps the order**, of numbers of either sign. -/
theorem RoundsSigned.compare_isLE {p q : ℚ} {r s : UnpackedFloat} (hr : RoundsSigned p r) (hs : RoundsSigned q s)
    (hle : p ≤ q) :
    ((UnpackedFloat.unpack .binary64 (UnpackedFloat.pack .binary64 r)).compare
      (UnpackedFloat.unpack .binary64 (UnpackedFloat.pack .binary64 s))).any (·.isLE) = true := by
  have hmono {p q : ℚ} {r s : UnpackedFloat} (hr : Rounds p r) (hs : Rounds q s) (hle : p ≤ q) :
      ((UnpackedFloat.unpack .binary64 (UnpackedFloat.pack .binary64 r)).compare
        (UnpackedFloat.unpack .binary64 (UnpackedFloat.pack .binary64 s))).any (·.isLE) = true := by
    obtain ⟨hrunsigned, hrvalue⟩ := isUnsigned_unpack_pack hr.isRounded
    obtain ⟨hsunsigned, hsvalue⟩ := isUnsigned_unpack_pack hs.isRounded
    rw [compare_isLE_iff hrunsigned hsunsigned, hrvalue, hsvalue]
    exact min_le_min_right _ (hr.mono hs hle)
  cases hr with
  | unsigned hp hr =>
    cases hs with
    | unsigned _ hs => exact hmono hr hs hle
    | negative hq hs => linarith
  | negative hp hr =>
    rw [unpack_pack_neg hr.isRounded]
    cases hs with
    | unsigned _ hs =>
      exact compare_neg_isLE (isUnsigned_unpack_pack hr.isRounded).1 (isUnsigned_unpack_pack hs.isRounded).1
    | negative hq hs =>
      rw [unpack_pack_neg hs.isRounded, compare_neg]
      exact hmono hs hr (neg_le_neg_iff.mp hle)

/-! ## Intervals -/

open Float.Model.UnpackedFloat (decreaseExponent)

/-- Both ends are integers in units of the smaller exponent. -/
theorem compare_sub_add (s : UnpackedFloat.Sign) {m n : Nat} {e f : Int} (hm : 0 < m) (hn : 0 < n) :
    ((UnpackedFloat.unpack .binary64 (UnpackedFloat.pack .binary64
        (UnpackedFloat.sub .binary64 (.finite s m e hm) (.finite .positive n f hn)))).compare
      (UnpackedFloat.unpack .binary64 (UnpackedFloat.pack .binary64
        (UnpackedFloat.add .binary64 (.finite s m e hm) (.finite .positive n f hn))))).any (·.isLE) = true := by
  let unit := min e f
  let k : Int := s.apply (decreaseExponent m e unit).1
  let l : Nat := (decreaseExponent n f unit).1
  have hends : ((k - l : Int) : ℚ) * 2 ^ unit ≤ ((k + l : Int) : ℚ) * 2 ^ unit :=
    mul_le_mul_of_nonneg_right (Int.cast_le.mpr (by omega)) (two_zpow_pos unit).le
  exact (roundsSigned_normalize (k - l) unit).compare_isLE (roundsSigned_normalize (k + l) unit) hends

/-- **An interval around a finite number** has its ends in order. -/
theorem sub_le_add {x width : Float} (hx : x.isFinite = true) (hwidth : 0.0 ≤ width) : x - width ≤ x + width := by
  have hunsigned := nonneg_iff.mp hwidth
  have hfinite : x.toModel.unpack.isFinite = true := hx
  have hlow : (x - width).toModel.unpack = UnpackedFloat.unpack .binary64 (UnpackedFloat.pack .binary64
    (UnpackedFloat.sub .binary64 x.toModel.unpack width.toModel.unpack)) := rfl
  have hhigh : (x + width).toModel.unpack = UnpackedFloat.unpack .binary64 (UnpackedFloat.pack .binary64
    (UnpackedFloat.add .binary64 x.toModel.unpack width.toModel.unpack)) := rfl
  rw [le_iff, hlow, hhigh]
  cases hw : width.toModel.unpack with
  | notANumber => rw [hw] at hunsigned; cases hunsigned
  | infinity t =>
    rw [hw] at hunsigned
    cases hunsigned
    cases hmodel : x.toModel.unpack with
    | notANumber | infinity s => rw [hmodel] at hfinite; cases hfinite
    | zero s | finite s m e hm =>
      show ((UnpackedFloat.unpack .binary64 (UnpackedFloat.packedInfinity .binary64 .negative)).compare
        (UnpackedFloat.unpack .binary64 (UnpackedFloat.packedInfinity .binary64 .positive))).any _ = true
      rw [unpack_packedInfinity, unpack_packedInfinity]
      rfl
  | zero t =>
    cases hmodel : x.toModel.unpack with
    | notANumber | infinity s => rw [hmodel] at hfinite; cases hfinite
    | zero s => cases s <;> cases t <;> rfl
    | finite s m e hm =>
      have hsame : (x + width).toModel.unpack
          = UnpackedFloat.unpack .binary64 (UnpackedFloat.pack .binary64 (.finite s m e hm)) := by
        rw [hhigh, hw, hmodel]
        rfl
      have hself : x + width ≤ x + width := le_refl_of_ne (hsame ▸ unpack_pack_ne nofun)
      rw [le_iff, hsame] at hself
      exact hself
  | finite t n f hn =>
    rw [hw] at hunsigned
    obtain ⟨rfl, hnormalized, hf⟩ := hunsigned
    cases hmodel : x.toModel.unpack with
    | notANumber | infinity s => rw [hmodel] at hfinite; cases hfinite
    | zero s =>
      show ((UnpackedFloat.unpack .binary64 (UnpackedFloat.pack .binary64 (.finite .negative n f hn))).compare
        (UnpackedFloat.unpack .binary64 (UnpackedFloat.pack .binary64 (.finite .positive n f hn)))).any _ = true
      rw [unpack_pack_of_le hnormalized hf, unpack_pack_of_le hnormalized hf]
      rfl
    | finite s m e hm => exact compare_sub_add s hm hn

/-- A multiple of a number that is not negative is not negative, where the factor has no leading zero. -/
theorem mul_nonneg {x y : Float} {n : Nat} {f : Int} {hn : 0 < n} (hx : x.toModel.unpack = .finite .positive n f hn)
    (hdigits : 2 ^ 52 ≤ n) (hy : 0.0 ≤ y) (hfinite : y.isFinite = true) : 0.0 ≤ x * y := by
  have hunsigned := nonneg_iff.mp hy
  have hfinite : y.toModel.unpack.isFinite = true := hfinite
  have hproduct : (x * y).toModel.unpack = UnpackedFloat.unpack .binary64 (UnpackedFloat.pack .binary64
    (UnpackedFloat.mul .binary64 x.toModel.unpack y.toModel.unpack)) := rfl
  rw [nonneg_iff, hproduct, hx]
  cases hmodel : y.toModel.unpack with
  | notANumber => rw [hmodel] at hunsigned; cases hunsigned
  | infinity s => rw [hmodel] at hfinite; cases hfinite
  | zero s => exact (isUnsigned_unpack_pack (rounds_zero _).isRounded).1
  | finite s m e hm =>
    rw [hmodel] at hunsigned
    obtain ⟨rfl, -⟩ := hunsigned
    exact (isUnsigned_unpack_pack (rounds_mul_finite hn hm (hdigits.trans (Nat.le_mul_of_pos_right n hm))).isRounded).1

/-- Only zero times infinity is no number. -/
theorem unpack_mul_ne {x y : Float} {s : UnpackedFloat.Sign} {m : Nat} {e : Int} {hm : 0 < m}
    (hx : x.toModel.unpack = .finite s m e hm) (hy : y.toModel.unpack ≠ .notANumber) :
    (x * y).toModel.unpack ≠ .notANumber := by
  refine unpack_pack_ne ?_
  rw [hx]
  cases hmodel : y.toModel.unpack with
  | notANumber => exact absurd hmodel hy
  | infinity t | zero t => nofun
  | finite t n f hn => exact roundWithAccuracy_ne _ _ _ _

theorem exists_zero_of_mul {x y : Float} {s t : UnpackedFloat.Sign} {n : Nat} {f : Int} {hn : 0 < n}
    (hx : x.toModel.unpack = .finite s n f hn) (hy : y.toModel.unpack = .zero t) :
    ∃ u, (x * y).toModel.unpack = .zero u := by
  have hproduct : (x * y).toModel.unpack = UnpackedFloat.unpack .binary64 (UnpackedFloat.pack .binary64
    (UnpackedFloat.mul .binary64 x.toModel.unpack y.toModel.unpack)) := rfl
  have hzero : UnpackedFloat.mul .binary64 (.finite s n f hn) (.zero t) = .zero (s * t) := rfl
  rw [hproduct, hx, hy, hzero]
  generalize s * t = u
  exact ⟨u, by cases u <;> rfl⟩

/-! ## Nothing added -/

/-- Two numbers that differ in the sign of zero at most. -/
def SameValue (x y : UnpackedFloat) : Prop :=
  x = y ∨ ∃ s t, x = .zero s ∧ y = .zero t

theorem SameValue.le_iff {x y z : Float} (h : SameValue x.toModel.unpack y.toModel.unpack) :
    (x ≤ z ↔ y ≤ z) ∧ (z ≤ x ↔ z ≤ y) := by
  rw [Binary64.le_iff, Binary64.le_iff, Binary64.le_iff, Binary64.le_iff]
  obtain heq | ⟨s, t, hx, hy⟩ := h
  · rw [heq]
    exact ⟨.rfl, .rfl⟩
  · rw [hx, hy]
    cases z.toModel.unpack with
    | notANumber | zero u => exact ⟨.rfl, .rfl⟩
    | infinity u | finite u n f hn => cases u <;> exact ⟨.rfl, .rfl⟩

/-- What is read back of a number is the number. -/
theorem sameValue_unpack_pack {x : Float} {r : UnpackedFloat} (h : SameValue r x.toModel.unpack) :
    SameValue (UnpackedFloat.unpack .binary64 (UnpackedFloat.pack .binary64 r)) x.toModel.unpack := by
  obtain heq | ⟨s, t, rfl, hx⟩ := h
  · left
    rw [heq]
    cases hmodel : x.toModel.unpack with
    | notANumber => rfl
    | infinity s => exact unpack_packedInfinity s
    | zero s => cases s <;> rfl
    | finite s m e hm => exact unpack_pack_of_le (isNormalized_unpack hmodel).1 (isNormalized_unpack hmodel).2
  · exact .inr ⟨s, t, by cases s <;> rfl, hx⟩

theorem sameValue_zero_add (x : Float) : SameValue (0.0 + x).toModel.unpack x.toModel.unpack := by
  refine sameValue_unpack_pack ?_
  rw [unpack_zero]
  cases hmodel : x.toModel.unpack with
  | notANumber | infinity t | finite t n f hn => exact .inl rfl
  | zero t => cases t <;> exact .inr ⟨_, _, rfl, rfl⟩

/-- An interval without a width has its middle for both ends. -/
theorem sameValue_add_sub {x width : Float} {t : UnpackedFloat.Sign} (hwidth : width.toModel.unpack = .zero t) :
    SameValue (x - width).toModel.unpack x.toModel.unpack ∧ SameValue (x + width).toModel.unpack x.toModel.unpack := by
  refine ⟨sameValue_unpack_pack ?_, sameValue_unpack_pack ?_⟩ <;> rw [hwidth]
  all_goals
    cases hmodel : x.toModel.unpack with
    | notANumber | infinity s | finite s m e hm => exact .inl rfl
    | zero s => cases s <;> cases t <;> exact .inr ⟨_, _, rfl, rfl⟩

end HilBridge.Binary64
