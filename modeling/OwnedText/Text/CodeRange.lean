/-! # Ranges of code points

Properties of characters are given as closed ranges of code points in ascending order.
-/

namespace OwnedText.CodeRange

/-- A code point lies in one of the ranges. -/
def covers (ranges : List (Nat × Nat)) (code : Nat) : Bool :=
  ranges.any fun range => range.1 ≤ code && code ≤ range.2

end OwnedText.CodeRange
