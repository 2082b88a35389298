/-!
# `HilBridge.Text.Duration` — spans of time, for logs

A span of a second and more is written in seconds, with as many decimal places as it needs. A shorter one is
written in whole milliseconds, and nothing at all is no nanoseconds.
-/

namespace HilBridge.Text

/-- The decimal places of so many thousandths, without zeros at the end. -/
def thousandths (count : Nat) : String :=
  if count = 0 then ""
  else if count % 100 = 0 then s!".{count / 100}"
  else if count % 10 = 0 then
    "." ++ (if count < 100 then "0" else "") ++ toString (count / 10)
  else "." ++ (if count < 10 then "00" else if count < 100 then "0" else "") ++ toString count

/-- A span of so many milliseconds. -/
def milliseconds (count : Nat) : String :=
  if 1000 ≤ count then toString (count / 1000) ++ thousandths (count % 1000) ++ "s"
  else if count = 0 then "0ns"
  else s!"{count}ms"

end HilBridge.Text
