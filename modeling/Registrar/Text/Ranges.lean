/-!
# Sets of characters

A property of characters from the Unicode standard is a list of ranges of code points, both ends
included, in increasing order.

## Main definitions

* `inRanges` — whether a code point lies in one of the ranges.
-/

namespace Registrar

/-- Whether a code point lies in one of the ranges. -/
def inRanges (ranges : List (Nat × Nat)) (code : Nat) : Bool :=
  ranges.any fun range => decide (range.1 ≤ code ∧ code ≤ range.2)

end Registrar
