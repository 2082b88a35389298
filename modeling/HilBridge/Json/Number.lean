import HilBridge.Number.FloatFormat

/-!
# `HilBridge.Json.Number` — what a number written in JSON stands for

A literal keeps its digits, because its reading depends on the place it stands in: a place for a natural
number takes only literals without sign, fraction and exponent, a place for a float takes them all.

A float is read with one scaling. The digits are collected into a significand of 64 bits, those that no
longer fit are dropped, and the significand is multiplied or divided by one power of ten, all of it in
double precision. That is exact up to 15 digits and exponents up to 22, and within an ulp beyond.
-/

namespace HilBridge.Json

/-- A number as written. -/
structure Number where
  negative : Bool
  /-- The digits in front of the point. -/
  whole : List Nat
  /-- The digits after the point; empty without a point. -/
  fraction : List Nat
  exponent : Option Int
  deriving Repr, DecidableEq

namespace Number

/-- Largest significand. -/
def maxSignificand : Nat :=
  Nat.pow 2 64 - 1

/-- The value of a string of digits, put after those of `n`. -/
def ofDigits (n : Nat) (digits : List Nat) : Nat :=
  digits.foldl (fun n d => 10 * n + d) n

/-- Whether the literal has neither fraction nor exponent. -/
def isWhole (n : Number) : Bool :=
  n.fraction.isEmpty && n.exponent.isNone

/-- The natural number below `2 ^ 64` that the literal writes without a sign. -/
def toNat? (n : Number) : Option Nat :=
  let value := ofDigits 0 n.whole
  if n.isWhole && !n.negative && value ≤ maxSignificand then some value else none

/--
Digits appended to a significand as long as it stays within 64 bits, and the number of digits that no
longer fit.
-/
def collect (n : Nat) : List Nat → Nat × Nat
  | [] => (n, 0)
  | d :: rest =>
    if 10 * n + d ≤ maxSignificand then collect (10 * n + d) rest else (n, rest.length + 1)

/-- Significand and power of ten of the literal. -/
def parts (n : Number) : Nat × Int :=
  let (whole, dropped) := collect 0 n.whole
  let (significand, ignored) := collect whole n.fraction
  (significand, (dropped : Int) - ((n.fraction.length - ignored : Nat) : Int) + n.exponent.getD 0)

/-- Largest power of ten that double precision holds. -/
def maxPower : Nat :=
  308

/-- `10 ^ n`, rounded to the nearest double. -/
def powerOfTen (n : Nat) : Float :=
  Float.ofScientific 1 false n

/--
`x` times ten to the `exponent`. Exponents below the least power are made up for by dividing by it first,
which at most `fuel` times leaves anything of a significand; overflow has no value.
-/
def scale : Nat → Float → Int → Option Float
  | fuel, x, exponent =>
    if exponent.natAbs ≤ maxPower then
      if 0 ≤ exponent then
        let scaled := x * powerOfTen exponent.natAbs
        if scaled.isInf then none else some scaled
      else
        some (x / powerOfTen exponent.natAbs)
    else if x == 0.0 then some x
    else if 0 ≤ exponent then none
    else
      match fuel with
      | 0 => some 0.0
      | fuel + 1 => scale fuel (x / powerOfTen maxPower) (exponent + maxPower)

/-- The literal in double precision, unless it overflows. -/
def toFloat? (n : Number) : Option Float :=
  let (significand, exponent) := n.parts
  (scale 3 (Float.ofNat significand) exponent).map fun x => if n.negative then -x else x

/-- Whether the literal writes an integer of 64 bits, with a sign if there is one. -/
def isInteger64 (n : Number) : Bool :=
  n.isWhole && ofDigits 0 n.whole ≤ (if n.negative then Nat.pow 2 63 else maxSignificand)

/-- The literal in single precision. Integers of 64 bits are rounded once, all others by way of double precision. -/
def toBinary32? (n : Number) : Option Binary32 :=
  if n.isInteger64 then
    some (Binary32.ofClass (.finite ⟨n.negative, ofDigits 0 n.whole, 0⟩))
  else n.toFloat?.map Binary32.ofFloat

end Number

end HilBridge.Json
