/-!
# `HilBridge.Text.ByteOffset` — cutting a text at an offset in bytes

Offsets count the bytes of a text's UTF-8 form. A text can be cut between two characters, not inside one.
-/

namespace HilBridge.Text

/-- The bytes of a text. -/
def byteLength (text : List Char) : Nat :=
  text.foldr (fun c length => c.utf8Size + length) 0

/-- A text in two pieces, the first of so many bytes. -/
def splitAtByte? : Nat → List Char → Option (List Char × List Char)
  | 0, text => some ([], text)
  | _ + 1, [] => none
  | n + 1, c :: rest =>
    if c.utf8Size ≤ n + 1 then
      (splitAtByte? (n + 1 - c.utf8Size) rest).map fun (front, back) => (c :: front, back)
    else none

/-- The piece of a text from one offset to another. -/
def slice? (text : List Char) (first last : Nat) : Option (List Char) := do
  let (_, back) ← splitAtByte? first text
  let (piece, _) ← splitAtByte? (last - first) back
  some piece

/-- The piece of a text from an offset on. -/
def sliceFrom? (text : List Char) (first : Nat) : Option (List Char) :=
  (splitAtByte? first text).map (·.2)

end HilBridge.Text
