import ChainView.Text.Utf8

/-!
# Classes of characters

A class of characters is a list of closed ranges of code points, as the tables of Unicode write
their properties.
-/

namespace ChainView.Text

/-- Whether a character is in one of some closed ranges of code points. -/
def inRanges (ranges : List (Nat × Nat)) (c : Char) : Bool :=
  ranges.any fun r => r.1 ≤ c.toNat && c.toNat ≤ r.2

end ChainView.Text
