/-! # Flag words

A flag word has 32 independent bits. Bit 0 says that a zero byte follows the last counted element;
the others belong to whoever uses the word and are carried along unchanged.
-/

namespace OwnedText

structure Flags where
  bits : UInt32
deriving DecidableEq, Repr

namespace Flags

/-- No bit set. -/
def empty : Flags := ⟨0⟩

/-- A zero byte follows the last counted element. -/
def nulTerminated : Flags := ⟨1⟩

/-- Every bit of `other` is set in `flags`. -/
def contains (flags other : Flags) : Bool := flags.bits &&& other.bits == other.bits

/-- All bits of either word. -/
def union (flags other : Flags) : Flags := ⟨flags.bits ||| other.bits⟩

/-- Set the bits of `other`. -/
def insert (flags other : Flags) : Flags := flags.union other

/-- Clear the bits of `other`. -/
def erase (flags other : Flags) : Flags := ⟨flags.bits &&& ~~~other.bits⟩

/-- The word in decimal, inside its type's name. -/
def describe (flags : Flags) : String := s!"Flags({flags.bits.toNat})"

end Flags

end OwnedText
