import HilBridge.Number.FloatFormat

/-!
# `HilBridge.Scalar` — the numbers that physical quantities are made of

Frames, atmosphere, sensors, actuators and the vehicle are written over any type with a `Scalar` instance.
The program runs them on `Float`; a statement in exact arithmetic is about the same definitions at the real
numbers. The class holds operations only. Comparisons answer with a `Bool`, because "not a number" compares
false with everything, itself included.

Random numbers come with the scalars: a generator gives a sequence of draws for each seed, and nothing is said of
them but that. So a statement about any scalars holds whatever is drawn, and one particular generator is needed only to
run the program (`Binary64.normal`).
-/

namespace HilBridge

/-- What a sequence of draws starts from. -/
inductive Seed where
  | given (seed : UInt64)
  /-- Without a given one the system finds a seed, and another for every sequence. -/
  | found (sequence : Nat)
  deriving Repr, DecidableEq

/-- Arithmetic, comparison, the few transcendental functions that the models need, and draws. -/
class Scalar (α : Type) extends Add α, Sub α, Mul α, Div α, Neg α, OfScientific α where
  le : α → α → Bool
  lt : α → α → Bool
  isFinite : α → Bool
  /-- The value nearest to a natural number. -/
  ofNat : Nat → α
  pi : α
  sqrt : α → α
  sin : α → α
  cos : α → α
  /-- `atan2 y x` is the angle of the point `(x, y)`. -/
  atan2 : α → α → α
  pow : α → α → α
  /-- `modulo x y` differs from `x` by a multiple of `y` and is not negative. -/
  modulo : α → α → α
  /-- The draw from the standard normal distribution that comes after so many others from the seed. -/
  normal : Seed → Nat → α

namespace Scalar

variable {α : Type} [Scalar α]

/-- Whether `x` is "not a number": the one value that is not below or equal to itself. -/
def isNaN (x : α) : Bool :=
  !Scalar.le x x

def abs (x : α) : α :=
  if Scalar.lt x 0.0 then -x else x

/-- The larger of two numbers; "not a number" counts as missing. -/
def max (x y : α) : α :=
  if Scalar.isNaN x || Scalar.lt x y then y else x

/-- `x` moved to the nearer end of `[lo, hi]` when it lies outside; "not a number" stays. -/
def clamp (lo hi x : α) : α :=
  if Scalar.lt x lo then lo else if Scalar.lt hi x then hi else x

/-- `clamp` for bounds that may be out of order or not numbers, in which case there is no interval. -/
def clamp? (lo hi x : α) : Option α :=
  if Scalar.le lo hi then some (clamp lo hi x) else none

/-- Degrees to radians. -/
def radians (degrees : α) : α :=
  degrees * (pi / 180.0)

/-- Radians to degrees. -/
def degrees (radians : α) : α :=
  radians * (180.0 / pi)

end Scalar

/-! ## Double precision -/

namespace Binary64

/-- What remains of `x` after taking away multiples of `y` of the sign of `x`: exact, with the sign of `x`. -/
def remainder (x y : Float) : Float :=
  match classify x, classify y with
  | .finite dx, .finite dy =>
    if dy.mantissa = 0 then 0.0 / 0.0
    else
      let unit := min dx.exponent dy.exponent
      let inUnits (d : Dyadic) : Nat := d.mantissa * Nat.pow 2 (d.exponent - unit).toNat
      ofClass (.finite ⟨dx.negative, inUnits dx % inUnits dy, unit⟩)
  | .finite _, .infinite _ => x
  | _, _ => 0.0 / 0.0

/-- The remainder moved up by one modulus when it is negative. -/
def modulo (x y : Float) : Float :=
  let r := remainder x y
  if r < 0.0 then r + y.abs else r

/-- A word of a sequence: a counter of odd step, scrambled by shifts and multiplications. -/
def word (seed : Seed) (n : Nat) : UInt64 :=
  let start : UInt64 :=
    match seed with
    | .given seed => seed
    | .found sequence => .ofNat sequence
  let word := start + .ofNat (n + 1) * 0x9e3779b97f4a7c15
  let z := (word ^^^ (word >>> 30)) * 0xbf58476d1ce4e5b9
  let z := (z ^^^ (z >>> 27)) * 0x94d049bb133111eb
  z ^^^ (z >>> 31)

/-- A number above zero and up to one, in steps of `2 ^ -53`. -/
def unit (seed : Seed) (n : Nat) : Float :=
  Float.ofNat ((word seed n >>> 11).toNat + 1) / 9007199254740992.0

/-- The draws that the program runs with, by the polar coordinates of two uniform ones. -/
def normal (seed : Seed) (n : Nat) : Float :=
  (-(2.0 * (unit seed (2 * n)).log)).sqrt * (2.0 * 3.141592653589793 * unit seed (2 * n + 1)).cos

end Binary64

instance : Scalar Float where
  le x y := decide (x ≤ y)
  lt x y := decide (x < y)
  isFinite := Float.isFinite
  ofNat := Float.ofNat
  pi := 3.141592653589793
  sqrt := Float.sqrt
  sin := Float.sin
  cos := Float.cos
  atan2 := Float.atan2
  pow := Float.pow
  modulo := Binary64.modulo
  normal := Binary64.normal

end HilBridge
