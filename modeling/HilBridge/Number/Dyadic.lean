/-!
# `HilBridge.Number.Dyadic` — a sign, a natural mantissa and a power of two

Every finite binary floating-point number is a `Dyadic`. Its value is the fraction `num / den` of naturals
with a sign in front, so rounding it is division on `Nat`. `roundHalfEven` cuts mantissas and a given number of
digits short, `roundHalfUp` gives integers and chooses between the shortest digits.
-/

namespace HilBridge

/-! ## Rounding a fraction of naturals -/

/-- `num / den` as an integer; a half goes to the even neighbour. -/
def roundHalfEven (num den : Nat) : Nat :=
  let low := num / den
  match compare (2 * (num % den)) den with
  | .lt => low
  | .gt => low + 1
  | .eq => if low % 2 = 0 then low else low + 1

/-- `num / den` as an integer; a half goes up. -/
def roundHalfUp (num den : Nat) : Nat :=
  (2 * num + den) / (2 * den)

/-- `v` moved to the nearer end of `[lo, hi]` when it lies outside. -/
def clampInt (lo hi v : Int) : Int :=
  max lo (min hi v)

theorem clampInt_mem {lo hi : Int} (h : lo ≤ hi) (v : Int) :
    lo ≤ clampInt lo hi v ∧ clampInt lo hi v ≤ hi := by
  unfold clampInt
  omega

theorem clampInt_mono {lo hi v w : Int} (h : v ≤ w) : clampInt lo hi v ≤ clampInt lo hi w := by
  unfold clampInt
  omega

/-! ## Dyadic numbers -/

/-- The number `± mantissa * 2 ^ exponent`. -/
structure Dyadic where
  negative : Bool
  mantissa : Nat
  exponent : Int
  deriving Repr, DecidableEq

namespace Dyadic

/-- Numerator of the absolute value, over `den`. -/
def num (d : Dyadic) : Nat :=
  d.mantissa * Nat.pow 2 d.exponent.toNat

/-- Denominator of the absolute value: a power of two. -/
def den (d : Dyadic) : Nat :=
  Nat.pow 2 (-d.exponent).toNat

theorem den_pos (d : Dyadic) : 0 < d.den :=
  Nat.pow_pos (by decide)

/-- `n` with the sign of `d`. -/
def withSign (d : Dyadic) (n : Nat) : Int :=
  if d.negative then -(n : Int) else n

/-- The nearest integer; a half goes away from zero. -/
def nearest (d : Dyadic) : Int :=
  d.withSign (roundHalfUp d.num d.den)

/-- A natural number. -/
def ofNat (n : Nat) : Dyadic :=
  ⟨false, n, 0⟩

end Dyadic

end HilBridge
