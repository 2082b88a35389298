import HilBridge.Scalar

/-!
# `HilBridge.Proofs.Number.FloatOrder` — the order of double precision numbers

Comparisons of floating-point numbers are not those of a linear order: "not a number" is on neither side of anything.
For all others they are (`le_of_not_lt_of_ne`), because the comparison has an answer for any two of them, and the
opposite answer the other way round (`compare_swap`). That is what moving a number into an interval relies on.
-/

namespace HilBridge.Binary64

open Float.Model (UnpackedFloat)

theorem compare_sign_swap (s t : UnpackedFloat.Sign) : compare t s = (compare s t).swap := by
  cases s <;> cases t <;> rfl

/-- Numbers of the same sign are ordered by their exponents, and by their mantissas where those are equal. -/
theorem compare_magnitude_swap (e f : Int) (m n : Nat) :
    (compare f e).then (compare n m) = ((compare e f).then (compare m n)).swap := by
  rw [Ordering.swap_then, ← Std.OrientedOrd.eq_swap, ← Std.OrientedOrd.eq_swap]

/-- The other way round the answer is the opposite one, and there is none where there was none. -/
theorem compare_swap (x y : UnpackedFloat) : y.compare x = (x.compare y).map Ordering.swap := by
  cases x with
  | notANumber => cases y <;> rfl
  | infinity s =>
    cases y with
    | notANumber => cases s <;> rfl
    | infinity t => exact congrArg some (compare_sign_swap s t)
    | zero t => cases s <;> rfl
    | finite t n f hn => cases s <;> cases t <;> rfl
  | zero s =>
    cases y with
    | notANumber => rfl
    | infinity t => cases t <;> rfl
    | zero t => rfl
    | finite t n f hn => cases t <;> rfl
  | finite s m e hm =>
    cases y with
    | notANumber => cases s <;> rfl
    | infinity t => cases s <;> cases t <;> rfl
    | zero t => cases s <;> rfl
    | finite t n f hn =>
      -- only equal signs need a look at the magnitudes
      cases s <;> cases t
      case positive.positive => exact congrArg some (compare_magnitude_swap e f m n)
      case negative.negative =>
        show some ((compare f e).then (compare n m)).swap = some (((compare e f).then (compare m n)).swap).swap
        rw [compare_magnitude_swap e f m n]
      all_goals rfl

theorem isSome_compare {x y : UnpackedFloat} (hx : x ≠ .notANumber) (hy : y ≠ .notANumber) :
    (x.compare y).isSome = true := by
  cases x with
  | notANumber => exact absurd rfl hx
  | infinity s =>
    cases y with
    | notANumber => exact absurd rfl hy
    | infinity t => rfl
    | zero t | finite t n f hn => cases s <;> rfl
  | zero s =>
    cases y with
    | notANumber => exact absurd rfl hy
    | zero t => rfl
    | infinity t | finite t n f hn => cases t <;> rfl
  | finite s m e hm =>
    cases y with
    | notANumber => exact absurd rfl hy
    | zero t => cases s <;> rfl
    | infinity t | finite t n f hn => cases s <;> cases t <;> rfl

theorem ne_of_isFinite {x : UnpackedFloat} (hx : x.isFinite = true) : x ≠ .notANumber := by
  rintro rfl
  cases hx

/-- The order of numbers is read off the comparison of what they are made of. -/
theorem lt_iff {x y : Float} : x < y ↔ x.toModel.unpack.compare y.toModel.unpack = some .lt := by
  show decide (x.toModel < y.toModel) = true ↔ _
  rw [decide_eq_true_iff]
  show (x.toModel.unpack.compare y.toModel.unpack == some .lt) = true ↔ _
  exact beq_iff_eq

theorem le_iff {x y : Float} :
    x ≤ y ↔ (x.toModel.unpack.compare y.toModel.unpack).any (·.isLE) = true := by
  show decide (x.toModel ≤ y.toModel) = true ↔ _
  exact decide_eq_true_iff

/-- Numbers are in a linear order. -/
theorem le_of_not_lt_of_ne {x y : Float} (hx : x.toModel.unpack ≠ .notANumber) (hy : y.toModel.unpack ≠ .notANumber)
    (h : ¬ x < y) : y ≤ x := by
  obtain ⟨answer, hanswer⟩ := Option.isSome_iff_exists.mp (isSome_compare hx hy)
  rw [lt_iff, hanswer] at h
  rw [le_iff, compare_swap, hanswer]
  cases answer with
  | lt => exact absurd rfl h
  | eq => rfl
  | gt => rfl

theorem le_of_not_lt {x y : Float} (hx : x.isFinite = true) (hy : y.isFinite = true) (h : ¬ x < y) : y ≤ x :=
  le_of_not_lt_of_ne (ne_of_isFinite hx) (ne_of_isFinite hy) h

theorem le_refl_of_ne {x : Float} (hx : x.toModel.unpack ≠ .notANumber) : x ≤ x := by
  have hirreflexive : ¬ x < x := by
    intro hlt
    have hboth := compare_swap x.toModel.unpack x.toModel.unpack
    rw [lt_iff.mp hlt] at hboth
    cases hboth
  exact le_of_not_lt_of_ne hx hx hirreflexive

theorem le_refl {x : Float} (hx : x.isFinite = true) : x ≤ x :=
  le_refl_of_ne (ne_of_isFinite hx)

/-- What is a number after it was moved into an interval lies in it. -/
theorem clamp_mem_of_ne {lo hi x : Float} (hlo : lo.toModel.unpack ≠ .notANumber)
    (hhi : hi.toModel.unpack ≠ .notANumber) (hle : lo ≤ hi)
    (h : (Scalar.clamp lo hi x).toModel.unpack ≠ .notANumber) :
    lo ≤ Scalar.clamp lo hi x ∧ Scalar.clamp lo hi x ≤ hi := by
  unfold Scalar.clamp at h ⊢
  by_cases hbelow : Scalar.lt x lo = true
  · rw [if_pos hbelow]
    exact ⟨le_refl_of_ne hlo, hle⟩
  · rw [if_neg hbelow] at h ⊢
    by_cases habove : Scalar.lt hi x = true
    · rw [if_pos habove]
      exact ⟨hle, le_refl_of_ne hhi⟩
    · rw [if_neg habove] at h ⊢
      -- the number itself, which is not on the wrong side of either end
      have hnotBelow : ¬ x < lo := by simpa [Scalar.lt] using hbelow
      have hnotAbove : ¬ hi < x := by simpa [Scalar.lt] using habove
      exact ⟨le_of_not_lt_of_ne h hlo hnotBelow, le_of_not_lt_of_ne hhi h hnotAbove⟩

theorem clamp_mem {lo hi x : Float} (hlo : lo.isFinite = true) (hhi : hi.isFinite = true) (hle : lo ≤ hi)
    (h : (Scalar.clamp lo hi x).isFinite = true) :
    lo ≤ Scalar.clamp lo hi x ∧ Scalar.clamp lo hi x ≤ hi :=
  clamp_mem_of_ne (ne_of_isFinite hlo) (ne_of_isFinite hhi) hle (ne_of_isFinite h)

/-- A finite number stays finite when it is moved into an interval with finite ends. -/
theorem isFinite_clamp {lo hi x : Float} (hlo : lo.isFinite = true) (hhi : hi.isFinite = true)
    (hx : x.isFinite = true) : (Scalar.clamp lo hi x).isFinite = true := by
  unfold Scalar.clamp
  split
  · exact hlo
  · split
    · exact hhi
    · exact hx

end HilBridge.Binary64
