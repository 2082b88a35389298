/-!
# `HilBridge.Text.Hex` — bytes as hexadecimal digits

Each byte is written as two digits in small letters. Reading takes letters of either size.
-/

namespace HilBridge.Text

/-- The value of a hexadecimal digit. -/
def hexDigit? (c : Char) : Option Nat :=
  if c.isDigit then some (c.toNat - '0'.toNat)
  else if 'a' ≤ c ∧ c ≤ 'f' then some (c.toNat - 'a'.toNat + 10)
  else if 'A' ≤ c ∧ c ≤ 'F' then some (c.toNat - 'A'.toNat + 10)
  else none

/-- The digits of some bytes. -/
def hexText (bytes : List UInt8) : String :=
  String.ofList (bytes.flatMap fun b => [Nat.digitChar (b.toNat / 16), Nat.digitChar (b.toNat % 16)])

/-- The bytes that pairs of digits write. -/
def hexPairs? : List Char → Option (List UInt8)
  | [] => some []
  | [_] => none
  | high :: low :: rest => do
    let high ← hexDigit? high
    let low ← hexDigit? low
    let bytes ← hexPairs? rest
    some (UInt8.ofNat (16 * high + low) :: bytes)

/-- The bytes that a text writes. -/
def hexBytes? (text : String) : Option (List UInt8) :=
  hexPairs? text.toList

end HilBridge.Text
