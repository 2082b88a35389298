/-!
# `HilBridge.Text.CodeRange` — sets of characters as ranges of code points
-/

namespace HilBridge.Text

/-- A set of code points, as ranges given by their first and last one. -/
abbrev CodeRanges := List (Nat × Nat)

/-- Whether a character is in the set. -/
def CodeRanges.contains (ranges : CodeRanges) (c : Char) : Bool :=
  ranges.any fun (first, last) => first ≤ c.toNat && c.toNat ≤ last

end HilBridge.Text
