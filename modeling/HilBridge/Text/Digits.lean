/-!
# `HilBridge.Text.Digits` — numbers in decimal digits
-/

namespace HilBridge.Text

/-! ## Whole numbers -/

/-- The number that decimal digits write. -/
def decimal? (text : List Char) : Option Nat :=
  if text.isEmpty || !text.all Char.isDigit then none
  else some (text.foldl (fun n c => 10 * n + (c.toNat - '0'.toNat)) 0)

/-- The number below `bound` that decimal digits write. -/
def decimalBelow? (bound : Nat) (text : List Char) : Option Nat :=
  (decimal? text).filter (decide <| · < bound)

/-- The same, maybe behind a plus. -/
def unsigned? (bound : Nat) : List Char → Option Nat
  | '+' :: digits => decimalBelow? bound digits
  | digits => decimalBelow? bound digits

/-! ## Numbers with a point and an exponent -/

/-- A text without a sign in front. -/
def unsignedPart : List Char → List Char
  | '+' :: rest => rest
  | '-' :: rest => rest
  | rest => rest

/-- Whether a text is an exponent: a letter, maybe a sign, and digits. -/
def isExponent : List Char → Bool
  | 'e' :: rest => (decimal? (unsignedPart rest)).isSome
  | 'E' :: rest => (decimal? (unsignedPart rest)).isSome
  | _ => false

/-- Whether digits, maybe with a point among or beside them, stand in front of what may be an exponent. -/
def isPositional (text : List Char) : Bool :=
  let whole := text.takeWhile Char.isDigit
  let (fraction, rest) :=
    match text.dropWhile Char.isDigit with
    | '.' :: rest => (rest.takeWhile Char.isDigit, rest.dropWhile Char.isDigit)
    | rest => ([], rest)
  !(whole.isEmpty && fraction.isEmpty) && (rest.isEmpty || isExponent rest)

/-- Whether a text writes a number, finite or not, maybe behind a sign. -/
def isNumber (text : List Char) : Bool :=
  let text := unsignedPart text
  isPositional text || ["inf", "infinity", "nan"].contains (String.ofList text).toLower

end HilBridge.Text
