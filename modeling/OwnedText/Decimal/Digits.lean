/-! # Decimal digits

Natural numbers and their digits, most significant first and without leading zeros, and the number that
any run of digits denotes.
-/

namespace OwnedText.Digits

/-- The digit of a value below ten. -/
def ofDigit (value : Nat) : Char := Char.ofNat (48 + value)

/-- The value of one of the ten ASCII digits. -/
def digit? (c : Char) : Option Nat :=
  if 48 ≤ c.toNat ∧ c.toNat ≤ 57 then some (c.toNat - 48) else none

/-- The ten ASCII digits. -/
def isDigit (c : Char) : Bool := (digit? c).isSome

/-- The digits of a number, without leading zeros; zero has one digit. -/
def ofNat (value : Nat) : List Char :=
  if value < 10 then [ofDigit value] else ofNat (value / 10) ++ [ofDigit (value % 10)]
termination_by value
decreasing_by omega

/-- The number that digits denote after the ones already read; other characters count as zero. -/
def valueFrom (value : Nat) : List Char → Nat
  | [] => value
  | c :: rest => valueFrom (10 * value + (digit? c).getD 0) rest

/-- The number that digits denote. -/
def value (digits : List Char) : Nat := valueFrom 0 digits

end OwnedText.Digits
