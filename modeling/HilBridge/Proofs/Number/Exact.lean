import Mathlib
import HilBridge.Scalar

/-!
# `HilBridge.Proofs.Number.Exact` — the real numbers as scalars

Statements in exact arithmetic are about the definitions of the program at the real numbers, of which this module makes
an instance of `Scalar`. No value is "not a number" or infinite here, and a comparison holds where its proposition does.
What is drawn is not known.
-/

namespace HilBridge

open Classical in
noncomputable instance : Scalar ℝ where
  le x y := decide (x ≤ y)
  lt x y := decide (x < y)
  isFinite _ := true
  ofNat n := n
  pi := Real.pi
  sqrt := Real.sqrt
  sin := Real.sin
  cos := Real.cos
  atan2 y x := Complex.arg ⟨x, y⟩
  pow := Real.rpow
  modulo x y := x - |y| * ⌊x / |y|⌋
  normal := Classical.arbitrary _

namespace Scalar

variable {x y : ℝ}

@[simp]
theorem lt_iff : Scalar.lt x y = true ↔ x < y :=
  decide_eq_true_iff

@[simp]
theorem le_iff : Scalar.le x y = true ↔ x ≤ y :=
  decide_eq_true_iff

end Scalar

end HilBridge
