import HilBridge.Number.FloatFormat

/-!
# `HilBridge.Number.Decimal` — decimal digits of a binary number

Two ways to choose the digits of a positive `Dyadic`, both in exact arithmetic on fractions of naturals:

* `Decimal.rounded n d` — the `n`-digit decimal nearest to `d`, a tie going to the even last digit;
* `Decimal.shortest d` — the decimal of fewest digits that lies among the reals rounding to `d`, and of
  those the one nearest to `d`, the greater of two as near.

The layouts that turn digits into text are separate: `Decimal.positional` writes no exponent whatever the
magnitude, `Decimal.exponential` always writes one.
-/

namespace HilBridge

/-- The positive number `digits * 10 ^ exponent`. -/
structure Decimal where
  digits : Nat
  exponent : Int
  deriving Repr, DecidableEq

namespace Decimal

/-! ## Choosing the digits -/

/-- Number of decimal digits of `n`; one for zero. -/
def digitCount (n : Nat) : Nat :=
  (Nat.toDigits 10 n).length

/-- The `k` with `10 ^ k ≤ num / den < 10 ^ (k + 1)`, for a positive fraction. -/
def magnitude (num den : Nat) : Int :=
  if den ≤ num then
    (digitCount (num / den) : Int) - 1
  else
    let places := digitCount (den / num)
    if den ≤ num * Nat.pow 10 (places - 1) then 1 - (places : Int) else -(places : Int)

/-- The fraction `num / den` in units of `10 ^ unit`. -/
def inUnits (num den : Nat) (unit : Int) : Nat × Nat :=
  (num * Nat.pow 10 (-unit).toNat, den * Nat.pow 10 unit.toNat)

/-- The nearest decimal of exactly `places` digits. Rounding up to the next power of ten drops a digit. -/
def rounded (places : Nat) (d : Dyadic) : Decimal :=
  let unit := magnitude d.num d.den + 1 - (places : Int)
  let (num, den) := inUnits d.num d.den unit
  let digits := roundHalfEven num den
  if digits = Nat.pow 10 places then ⟨Nat.pow 10 (places - 1), unit + 1⟩ else ⟨digits, unit⟩

/--
The reals that round to a mantissa and exponent, as fractions over one denominator: four times the
spacing below, so that the halves towards both neighbours are whole. Above a power of two the lower
neighbour is only half as far away. The ends belong to the interval when the mantissa is even.
-/
structure RoundingInterval where
  low : Nat
  value : Nat
  high : Nat
  den : Nat
  closed : Bool

/-- The reals that round to `d`, for a binary64 number with lowest exponent -1074. -/
def roundingInterval (d : Dyadic) : RoundingInterval :=
  let scale := Nat.pow 2 d.exponent.toNat
  let nearBelow := d.mantissa = Nat.pow 2 52 ∧ d.exponent ≠ -1074
  { low := (4 * d.mantissa - (if nearBelow then 1 else 2)) * scale
    value := 4 * d.mantissa * scale
    high := (4 * d.mantissa + 2) * scale
    den := 4 * d.den
    closed := d.mantissa % 2 = 0 }

/-- Whether `n * 10 ^ unit` lies in the interval. -/
def RoundingInterval.contains (i : RoundingInterval) (unit : Int) (n : Nat) : Bool :=
  let point := n * Nat.pow 10 unit.toNat * i.den
  let down := Nat.pow 10 (-unit).toNat
  if i.closed then i.low * down ≤ point && point ≤ i.high * down
  else i.low * down < point && point < i.high * down

/--
The decimal on the grid of `unit` that reads back as the value, the nearer one if both neighbours do, or the
greater if they are as near.
-/
def onGrid? (i : RoundingInterval) (unit : Int) : Option Decimal :=
  let (num, den) := inUnits i.value i.den unit
  let nearest := roundHalfUp num den
  let low := num / den
  if i.contains unit nearest then some ⟨nearest, unit⟩
  else if i.contains unit low then some ⟨low, unit⟩
  else if i.contains unit (low + 1) then some ⟨low + 1, unit⟩
  else none

/-- Trailing zeros moved into the exponent, at most `fuel` of them. -/
def trim : Nat → Decimal → Decimal
  | 0, d => d
  | fuel + 1, d =>
    if d.digits ≠ 0 ∧ d.digits % 10 = 0 then trim fuel ⟨d.digits / 10, d.exponent + 1⟩ else d

/-- The decimal of fewest digits that reads back as the positive binary64 number `d`. -/
def shortest (d : Dyadic) : Decimal :=
  let top := magnitude d.num d.den
  let found := (List.range 17).findSome? fun (k : Nat) => onGrid? (roundingInterval d) (top - k)
  (found.getD (rounded 17 d) |> trim 20)

/-! ## Laying the digits out -/

/-- `n` zeros. -/
def zeros (n : Nat) : String :=
  String.ofList (List.replicate n '0')

/-- The decimal digits of `n`. -/
def digitText (n : Nat) : String :=
  String.ofList (Nat.toDigits 10 n)

/-- All digits written out, without an exponent. A whole number has no point. -/
def positional (d : Decimal) : String :=
  let text := digitText d.digits
  if 0 ≤ d.exponent then
    text ++ zeros d.exponent.toNat
  else
    let places := (-d.exponent).toNat
    if text.length ≤ places then
      "0." ++ zeros (places - text.length) ++ text
    else
      let chars := text.toList
      String.ofList (chars.take (chars.length - places)) ++ "."
        ++ String.ofList (chars.drop (chars.length - places))

/-- One digit, a point before any further ones, and the exponent of the first digit. -/
def exponential (d : Decimal) : String :=
  match Nat.toDigits 10 d.digits with
  | [] => "0e0"
  | first :: rest =>
    let fraction := if rest.isEmpty then "" else "." ++ String.ofList rest
    first.toString ++ fraction ++ "e" ++ toString (d.exponent + rest.length)

end Decimal

/-! ## Text of a float -/

/-- Text of a sign. -/
def signText (negative : Bool) : String :=
  if negative then "-" else ""

namespace Binary64

/-- The text of a number whose class is not finite, or that of its sign and `magnitude`. -/
def textWith (magnitude : Dyadic → String) (x : Float) : String :=
  match classify x with
  | .nan => "NaN"
  | .infinite negative => signText negative ++ "inf"
  | .finite d => signText d.negative ++ magnitude d

/-- The shortest text that reads back, never with an exponent: `-1`, `0.0000001`, `-0`, `NaN`, `inf`. -/
def plainText (x : Float) : String :=
  textWith (fun d => if d.mantissa = 0 then "0" else (Decimal.shortest d).positional) x

/--
The shortest text that reads back and shows that the value is a float: a whole number keeps `.0`, and
magnitudes below `1e-4` or from `1e16` on are written with an exponent.
-/
def debugText (x : Float) : String :=
  textWith (fun d =>
    if d.mantissa = 0 then "0.0"
    else
      let decimal := Decimal.shortest d
      let top := decimal.exponent + (Decimal.digitCount decimal.digits : Int) - 1
      if -4 ≤ top ∧ top < 16 then
        decimal.positional ++ if 0 ≤ decimal.exponent then ".0" else ""
      else decimal.exponential) x

/-- `places` significant digits and an exponent. Zero has neither, and no sign. -/
def significantText (places : Nat) (x : Float) : String :=
  if x == 0.0 then "0" else textWith (fun d => (Decimal.rounded places d).exponential) x

end Binary64

end HilBridge
