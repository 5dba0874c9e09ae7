/-!
# Ranges of code points

A property of characters is kept as the ascending list of its ranges of code points, first and
last included.
-/

namespace LinkSearch.Text

/-- Whether the code point of `c` lies in one of the ranges. -/
def inRanges (ranges : List (Nat × Nat)) (c : Char) : Bool :=
  ranges.any fun range => range.1 ≤ c.toNat && c.toNat ≤ range.2

end LinkSearch.Text
