import OwnedText.Decimal.Binary64

/-! # The shortest decimal of a magnitude

Among the decimals that round to a given magnitude, the shortest one is chosen, and among the shortest
the one nearest to the value; of two equally near ones the larger. The search looks at ever finer
grids. On each grid the only two points that can serve are the neighbours of the value, because the
numbers that round to a magnitude have no gaps. The last grid has seventeen digits, on which the
neighbour that is nearer always serves.
-/

namespace OwnedText

/-- The number `digits * 10 ^ exponent`. -/
structure Decimal where
  digits : Nat
  exponent : Int
deriving DecidableEq, Repr

namespace Decimal

def numerator (decimal : Decimal) : Nat := decimal.digits * Nat.pow 10 decimal.exponent.toNat

def denominator (decimal : Decimal) : Nat := Nat.pow 10 (-decimal.exponent).toNat

/-- Move trailing zeros of the digits into the exponent. -/
def strip (digits : Nat) (exponent : Int) : Decimal :=
  if digits = 0 ∨ digits % 10 ≠ 0 then ⟨digits, exponent⟩ else strip (digits / 10) (exponent + 1)
termination_by digits
decreasing_by omega

/-- The decimal rounds to the magnitude. -/
def RoundsTo (decimal : Decimal) (magnitude : Nat) : Prop :=
  Binary64.RoundsTo decimal.numerator decimal.denominator magnitude

instance (decimal : Decimal) (magnitude : Nat) : Decidable (decimal.RoundsTo magnitude) := by
  unfold RoundsTo
  infer_instance

/-- The value of a magnitude in units of `10 ^ exponent`, as a numerator and a denominator. -/
def onGrid (magnitude : Nat) (exponent : Int) : Nat × Nat :=
  (Binary64.units magnitude * Nat.pow 10 (-exponent).toNat,
    Binary64.unitsPerOne * Nat.pow 10 exponent.toNat)

/-- Powers of ten are counted from here on, so that the counts are natural numbers. -/
def orderOffset : Nat := 400

/-- How many digits stand before the point: the value lies from `10 ^ (order - 1)` up to, but not at,
`10 ^ order`. -/
def order (magnitude : Nat) : Int :=
  (Binary64.lastHolding
    (fun power => decide (Binary64.unitsPerOne * Nat.pow 10 power ≤
      Binary64.units magnitude * Nat.pow 10 orderOffset)) 10 0 : Nat) + 1 - orderOffset

/-- The grid point at or just below the value. -/
def below (magnitude : Nat) (exponent : Int) : Nat :=
  (onGrid magnitude exponent).1 / (onGrid magnitude exponent).2

/-- Of the grid points around the value the nearer one, the upper one if both are equally near. -/
def nearer (magnitude : Nat) (exponent : Int) : Nat :=
  if 2 * (onGrid magnitude exponent).1 <
      (2 * below magnitude exponent + 1) * (onGrid magnitude exponent).2 then
    below magnitude exponent
  else below magnitude exponent + 1

/-- The grid point that rounds to the magnitude, the nearer one if both neighbours do. -/
def accepted? (magnitude : Nat) (exponent : Int) : Option Nat :=
  let lower := below magnitude exponent
  if RoundsTo ⟨lower, exponent⟩ magnitude then
    if RoundsTo ⟨lower + 1, exponent⟩ magnitude then some (nearer magnitude exponent) else some lower
  else if RoundsTo ⟨lower + 1, exponent⟩ magnitude then some (lower + 1)
  else none

/-- Search grids of `count`, `count + 1`, … digits, `more` of them, and settle for the nearer point of
the grid after those. -/
def search (magnitude : Nat) : Nat → Nat → Decimal
  | 0, count =>
    let exponent := order magnitude - count
    ⟨nearer magnitude exponent, exponent⟩
  | more + 1, count =>
    let exponent := order magnitude - count
    match accepted? magnitude exponent with
    | some digits => ⟨digits, exponent⟩
    | none => search magnitude more (count + 1)

/-- The shortest decimal that rounds to a magnitude other than zero, without trailing zeros. -/
def shortest (magnitude : Nat) : Decimal :=
  let found := search magnitude 16 1
  strip found.digits found.exponent

end Decimal

end OwnedText
