import HilBridge.Text.Concealed

/-!
# `HilBridge.Text.Quoted` — text in quotes, for logs

Quotes and backslashes are escaped by a backslash, the usual control characters by a letter, and the other
characters that cannot be told by sight by their number in hexadecimal.
-/

namespace HilBridge.Text

/-- How a character appears between quotes. -/
def quotedChar (c : Char) : String :=
  match c with
  | '"' => "\\\""
  | '\\' => "\\\\"
  | '\n' => "\\n"
  | '\r' => "\\r"
  | '\t' => "\\t"
  | '\x00' => "\\0"
  | c =>
    if isConcealed c then "\\u\x7b" ++ String.ofList (Nat.toDigits 16 c.toNat) ++ "\x7d"
    else c.toString

/-- The text between quotes. -/
def quoted (text : String) : String :=
  "\"" ++ String.join (text.toList.map quotedChar) ++ "\""

end HilBridge.Text
