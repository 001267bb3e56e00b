/-! # Allocation failures

A request for memory fails for one of two causes: the heap refuses it, or its size cannot be
described at all. Both remember the size that was asked for.
-/

namespace OwnedText

inductive AllocationError where
  | exhausted (size : Nat)
  | layoutOverflow (size : Nat)
deriving DecidableEq, Repr

namespace AllocationError

/-- Number of bytes that the failed request asked for. -/
def size : AllocationError → Nat
  | exhausted size | layoutOverflow size => size

def message : AllocationError → String
  | exhausted size => s!"heap exhausted: could not allocate {size} bytes"
  | layoutOverflow size => s!"allocation of {size} bytes exceeds the maximum layout size"

/-- The cause and the size, in the form used for inspection. -/
def describe : AllocationError → String
  | exhausted size => s!"Exhausted \x7b size: {size} \x7d"
  | layoutOverflow size => s!"LayoutOverflow \x7b size: {size} \x7d"

end AllocationError

end OwnedText
