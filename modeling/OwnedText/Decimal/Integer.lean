import OwnedText.Decimal.Digits

/-! # Integers as text

The written form is a minus sign for negative values and the digits without leading zeros. Reading
accepts a sign of either kind and any number of leading zeros. It goes from left to right and stops at
the first character that is no digit or that takes the value out of the 64-bit range.
-/

namespace OwnedText.Integer

/-- The digits of the magnitude, behind a minus sign if the value is negative. -/
def text (value : Int) : List Char :=
  if value < 0 then '-' :: Digits.ofNat value.natAbs else Digits.ofNat value.natAbs

/-- Why a text is no 64-bit integer. -/
inductive ReadError where
  | empty
  | invalidDigit
  | tooLarge
  | tooSmall
deriving DecidableEq, Repr

namespace ReadError

def message : ReadError → String
  | empty => "cannot parse integer from empty string"
  | invalidDigit => "invalid digit found in string"
  | tooLarge => "number too large to fit in target type"
  | tooSmall => "number too small to fit in target type"

end ReadError

/-- The 64-bit signed range. -/
def InRange (value : Int) : Prop := -(Nat.pow 2 63 : Int) ≤ value ∧ value < Nat.pow 2 63

instance (value : Int) : Decidable (InRange value) := by unfold InRange; infer_instance

/-- Read digits that lower the value. -/
def readDown (value : Int) : List Char → Except ReadError Int
  | [] => .ok value
  | c :: rest =>
    match Digits.digit? c with
    | none => .error .invalidDigit
    | some digit =>
      let next := 10 * value - digit
      if InRange next then readDown next rest else .error .tooSmall

/-- Read digits that raise the value. -/
def readUp (value : Int) : List Char → Except ReadError Int
  | [] => .ok value
  | c :: rest =>
    match Digits.digit? c with
    | none => .error .invalidDigit
    | some digit =>
      let next := 10 * value + digit
      if InRange next then readUp next rest else .error .tooLarge

/-- Read a 64-bit integer. A sign needs at least one digit. -/
def read : List Char → Except ReadError Int
  | [] => .error .empty
  | ['-'] | ['+'] => .error .invalidDigit
  | '-' :: digits => readDown 0 digits
  | '+' :: digits => readUp 0 digits
  | digits => readUp 0 digits

end OwnedText.Integer
