import HilBridge.Number.Dyadic

/-!
# `HilBridge.Number.FloatFormat` — binary interchange formats

A format is a number of fraction bits and a number of exponent bits. `FloatFormat.classify` reads the value
off a bit pattern and `FloatFormat.encode` finds the bit pattern nearest to a value; both work on naturals,
so they hold for binary32 and binary64 alike.

* `Binary64` gathers what the program asks of a `Float`: its exact value and its conversions to integers.
* `Binary32` is a bit pattern of its own type, for the wire keeps such patterns and nothing computes with
  them. `Binary32.ofFloat` rounds once, `Binary32.toFloat` is exact.
-/

namespace HilBridge

/-- What a binary floating-point number stands for. -/
inductive FloatClass where
  | nan
  | infinite (negative : Bool)
  | finite (value : Dyadic)
  deriving Repr, DecidableEq

/-- Widths of the two lower fields of a bit pattern; one sign bit stands above them. -/
structure FloatFormat where
  fractionBits : Nat
  exponentBits : Nat
  deriving Repr, DecidableEq

namespace FloatFormat

/-- Double precision. -/
def binary64 : FloatFormat := ⟨52, 11⟩

/-- Single precision. -/
def binary32 : FloatFormat := ⟨23, 8⟩

/-- Exponent of the last place of a subnormal number. -/
def lowestUnit (f : FloatFormat) : Int :=
  3 - (Nat.pow 2 (f.exponentBits - 1) : Nat) - (f.fractionBits + 1 : Nat)

/-- The exponent field of infinities and of "not a number". -/
def specialField (f : FloatFormat) : Nat :=
  Nat.pow 2 f.exponentBits - 1

/-- Weight of the sign bit. -/
def signWeight (f : FloatFormat) : Nat :=
  Nat.pow 2 (f.fractionBits + f.exponentBits)

/-- The value of a bit pattern. Exponent field zero holds the subnormal numbers. -/
def classify (f : FloatFormat) (bits : Nat) : FloatClass :=
  let negative := decide (bits / f.signWeight % 2 = 1)
  let field := bits / Nat.pow 2 f.fractionBits % Nat.pow 2 f.exponentBits
  let fraction := bits % Nat.pow 2 f.fractionBits
  if field = f.specialField then
    if fraction = 0 then .infinite negative else .nan
  else if field = 0 then
    .finite ⟨negative, fraction, f.lowestUnit⟩
  else
    .finite ⟨negative, fraction + Nat.pow 2 f.fractionBits, f.lowestUnit + (field - 1 : Nat)⟩

/--
The bits of the number of the format nearest to `± mantissa * 2 ^ exponent`, without the sign bit; a tie
goes to the even one. The unit of the last place is fixed by the leading bit, but never below
`lowestUnit`; counted in that unit the mantissa runs over into the exponent field by itself, also when
rounding carries. What passes the largest finite number becomes infinite.
-/
def encodeMagnitude (f : FloatFormat) (mantissa : Nat) (exponent : Int) : Nat :=
  let leading := (Nat.log2 mantissa : Int) + exponent
  let unit := max f.lowestUnit (leading - f.fractionBits)
  let shift := exponent - unit
  let units := roundHalfEven (mantissa * Nat.pow 2 shift.toNat) (Nat.pow 2 (-shift).toNat)
  min ((unit - f.lowestUnit).toNat * Nat.pow 2 f.fractionBits + units)
    (f.specialField * Nat.pow 2 f.fractionBits)

/-- The bits of a class. "Not a number" is quiet and positive. -/
def encode (f : FloatFormat) : FloatClass → Nat
  | .nan => f.specialField * Nat.pow 2 f.fractionBits + Nat.pow 2 (f.fractionBits - 1)
  | .infinite negative => (if negative then f.signWeight else 0) + f.specialField * Nat.pow 2 f.fractionBits
  | .finite d =>
    (if d.negative then f.signWeight else 0)
      + if d.mantissa = 0 then 0 else f.encodeMagnitude d.mantissa d.exponent

end FloatFormat

/-! ## Double precision -/

namespace Binary64

/-- The value of a `Float`. -/
def classify (x : Float) : FloatClass :=
  FloatFormat.binary64.classify x.toBits.toNat

/-- The nearest integer in `[lo, hi]`, a half going away from zero; "not a number" becomes zero. -/
def roundClamped (lo hi : Int) (x : Float) : Int :=
  match classify x with
  | .nan => 0
  | .infinite negative => if negative then lo else hi
  | .finite d => clampInt lo hi d.nearest

/-- The `Float` nearest to the class, exact whenever the class is one of double precision. -/
def ofClass (c : FloatClass) : Float :=
  Float.ofBits (UInt64.ofNat (FloatFormat.binary64.encode c))

end Binary64

/-! ## Single precision -/

/-- A single-precision bit pattern. -/
structure Binary32 where
  bits : UInt32
  deriving Repr, DecidableEq, Inhabited

namespace Binary32

/-- The value of the pattern. -/
def classify (x : Binary32) : FloatClass :=
  FloatFormat.binary32.classify x.bits.toNat

/-- The pattern nearest to a class. -/
def ofClass (c : FloatClass) : Binary32 :=
  ⟨UInt32.ofNat (FloatFormat.binary32.encode c)⟩

/-- Rounds once, to the nearest and ties to even. -/
def ofFloat (x : Float) : Binary32 :=
  ofClass (Binary64.classify x)

/-- Every pattern has its value among the doubles. -/
def toFloat (x : Binary32) : Float :=
  Binary64.ofClass x.classify

/-- The pattern nearest to a natural number. -/
def ofNat (n : Nat) : Binary32 :=
  ofClass (.finite (.ofNat n))

end Binary32

end HilBridge
