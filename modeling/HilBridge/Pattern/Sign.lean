import HilBridge.Text.Hex

/-!
# `HilBridge.Pattern.Sign` — the signs of a search pattern

A sign is a character of a pattern, or what a backslash makes of the characters behind it: a letter may stand
for a control character, for a family of characters or for a place in the text, a number for the character of
that number, and punctuation for itself.
-/

namespace HilBridge.Pattern

/-- A sign. -/
inductive Sign where
  /-- A character as it is written. -/
  | plain (c : Char)
  /-- A character that an escape stands for, and whether it was given by the digits of one byte. -/
  | escaped (c : Char) (isByte : Bool)
  /-- All digits, blanks or letters, or all other characters. -/
  | family (isNegated : Bool)
  /-- The beginning or the end of the text. -/
  | textEdge
  /-- A place at, or not at, the beginning or the end of a word. -/
  | wordEdge
  /-- An escape that stands for nothing. -/
  | unreadable
  deriving Repr, DecidableEq

/-- The sign of a letter or other character behind a backslash. -/
def Sign.ofEscape (c : Char) : Sign :=
  match c with
  | 'a' => .escaped '\x07' false
  | 'f' => .escaped '\x0c' false
  | 'n' => .escaped '\n' false
  | 'r' => .escaped '\r' false
  | 't' => .escaped '\t' false
  | 'v' => .escaped '\x0b' false
  | 'd' | 's' | 'w' => .family false
  | 'D' | 'S' | 'W' => .family true
  | 'A' | 'z' => .textEdge
  | 'b' | 'B' | '<' | '>' => .wordEdge
  | c => if c.toNat < 0x80 && !c.isAlphanum then .escaped c false else .unreadable

/-- The sign of the number that hexadecimal digits write. -/
def Sign.ofNumber (digits : List Char) (isByte : Bool) : Sign :=
  match digits.mapM Text.hexDigit? with
  | none => .unreadable
  | some digits =>
    let number := digits.foldl (fun n d => 16 * n + d) 0
    if number.isValidChar then .escaped (Char.ofNat number) isByte else .unreadable

/-- The signs of a text. -/
def signs : List Char → List Sign
  | [] => []
  | '\\' :: 'x' :: a :: b :: rest => .ofNumber [a, b] true :: signs rest
  | '\\' :: 'u' :: a :: b :: c :: d :: rest => .ofNumber [a, b, c, d] false :: signs rest
  | '\\' :: 'U' :: a :: b :: c :: d :: e :: f :: g :: h :: rest =>
    .ofNumber [a, b, c, d, e, f, g, h] false :: signs rest
  | '\\' :: c :: rest => .ofEscape c :: signs rest
  | ['\\'] => [.unreadable]
  | c :: rest => .plain c :: signs rest

end HilBridge.Pattern
