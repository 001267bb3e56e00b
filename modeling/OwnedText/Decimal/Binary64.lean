/-! # Binary floating-point numbers of 64 bits

A bit pattern is a sign and a magnitude. Magnitudes are ordinals: they count the non-negative finite
values upward from zero, subnormal and normal alike, so the neighbours of a value are the magnitudes
before and after it. Every finite value is a whole number of units of 2⁻¹⁰⁷⁴, and `units` gives that
number.

A rational rounds to the magnitude whose value is nearest, a tie to the even magnitude. Said with
ordinals, it reaches a magnitude if it lies above the midpoint to the one before, or on that midpoint
and the magnitude is even; it rounds to the last magnitude that it reaches. The magnitude after the
largest finite value continues the pattern and stands for infinity, which is where overflow begins.
-/

namespace OwnedText

structure Binary64 where
  bits : UInt64
deriving DecidableEq, Repr

namespace Binary64

/-- How many magnitudes share an exponent. -/
def binade : Nat := Nat.pow 2 52

/-- The place of the sign in a bit pattern. -/
def signBit : Nat := Nat.pow 2 63

/-- The magnitude that stands for infinity; those above it are no numbers. -/
def infinity : Nat := 2047 * binade

/-- Values are whole multiples of one part in so many. -/
def unitsPerOne : Nat := Nat.pow 2 1074

/-- A sign and a magnitude. -/
def ofParts (negative : Bool) (magnitude : Nat) : Binary64 :=
  ⟨UInt64.ofNat ((if negative then signBit else 0) + magnitude)⟩

def isNegative (value : Binary64) : Bool := decide (signBit ≤ value.bits.toNat)

def magnitude (value : Binary64) : Nat := value.bits.toNat % signBit

def isFinite (value : Binary64) : Bool := decide (value.magnitude < infinity)

def isNaN (value : Binary64) : Bool := decide (infinity < value.magnitude)

/-- A pattern that is no number: the first quiet one. -/
def nan (negative : Bool) : Binary64 := ofParts negative (infinity + binade / 2)

/-- The value of a magnitude in units of 2⁻¹⁰⁷⁴. -/
def units (magnitude : Nat) : Nat :=
  if magnitude < binade then magnitude
  else (binade + magnitude % binade) * Nat.pow 2 (magnitude / binade - 1)

/-- The rational `numerator / denominator` rounds to this magnitude or a later one. -/
def Reaches (numerator denominator : Nat) : Nat → Prop
  | 0 => True
  | below + 1 =>
    let midpoint := denominator * (units below + units (below + 1))
    let twice := 2 * (numerator * unitsPerOne)
    midpoint < twice ∨ midpoint = twice ∧ (below + 1) % 2 = 0

instance (numerator denominator magnitude : Nat) :
    Decidable (Reaches numerator denominator magnitude) := by
  cases magnitude <;> unfold Reaches <;> infer_instance

/-- The rational `numerator / denominator` rounds to exactly this magnitude. -/
def RoundsTo (numerator denominator magnitude : Nat) : Prop :=
  Reaches numerator denominator magnitude ∧ ¬ Reaches numerator denominator (magnitude + 1)

instance (numerator denominator magnitude : Nat) :
    Decidable (RoundsTo numerator denominator magnitude) := by
  unfold RoundsTo
  infer_instance

/-- The last of `2 ^ bits` numbers from `base` on at which a property holds that, once lost, stays
lost. -/
def lastHolding (holds : Nat → Bool) : Nat → Nat → Nat
  | 0, base => base
  | bits + 1, base =>
    let middle := base + Nat.pow 2 bits
    lastHolding holds bits (if holds middle then middle else base)

/-- The magnitude that a rational rounds to. -/
def nearest (numerator denominator : Nat) : Nat :=
  lastHolding
    (fun magnitude => decide (magnitude ≤ infinity ∧ Reaches numerator denominator magnitude)) 63 0

end Binary64

end OwnedText
