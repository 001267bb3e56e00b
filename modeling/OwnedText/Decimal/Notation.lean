import OwnedText.Decimal.Digits
import OwnedText.Decimal.Shortest

/-! # Floating-point numbers as text

The written form shows the shortest decimal. From 10⁻⁴ up to, but not at, 10¹⁶ it is positional with at
least one digit after the point; outside that range one digit stands before the point, trailing zeros
are left out and a decimal exponent follows. Zero keeps its sign. Infinities have a sign, and whatever
is no number has none.

Reading accepts a sign of either kind, digits with an optional point and at least one digit in all, an
optional exponent, and the words for infinity and for no number in any mixture of cases. The result is
correctly rounded, and numbers too large for any finite value read as infinity. Of an exponent only so
many digits are taken as reach a bound that is larger than any text of usual length calls for.
-/

namespace OwnedText.Binary64

/-- Digits with a point after the first `point` of them, padded with zeros where digits are missing.
At least one digit stands on either side. -/
def positional (digits : List Char) (point : Int) : List Char :=
  if point ≤ 0 then '0' :: '.' :: (List.replicate (-point).toNat '0' ++ digits)
  else if (digits.length : Int) ≤ point then
    digits ++ List.replicate (point.toNat - digits.length) '0' ++ ['.', '0']
  else digits.take point.toNat ++ '.' :: digits.drop point.toNat

/-- An integer with a minus sign if it is negative. -/
def exponentText (exponent : Int) : List Char :=
  if exponent < 0 then '-' :: Digits.ofNat exponent.natAbs else Digits.ofNat exponent.natAbs

/-- One digit before the point, the others behind it, and the exponent that moves the point there. -/
def scientific (digits : List Char) (point : Int) : List Char :=
  let mantissa := match digits with
    | first :: second :: rest => first :: '.' :: second :: rest
    | few => few
  mantissa ++ 'e' :: exponentText (point - 1)

/-- The value lies from 10⁻⁴ up to, but not at, 10¹⁶. -/
def isPlain (magnitude : Nat) : Bool :=
  let order := Decimal.order magnitude
  decide (-3 ≤ order ∧ order ≤ 16)

/-- The written form of a finite magnitude. -/
def magnitudeText (magnitude : Nat) : List Char :=
  if magnitude = 0 then ['0', '.', '0']
  else
    let decimal := Decimal.shortest magnitude
    let digits := Digits.ofNat decimal.digits
    let point := digits.length + decimal.exponent
    if isPlain magnitude then positional digits point else scientific digits point

/-- The written form of a bit pattern. -/
def text (value : Binary64) : List Char :=
  if value.isNaN then "NaN".toList
  else
    (if value.isNegative then ['-'] else []) ++
      if value.isFinite then magnitudeText value.magnitude else "inf".toList

/-- Why a text is no floating-point number. -/
inductive ReadError where
  | empty
  | invalid
deriving DecidableEq, Repr

namespace ReadError

def message : ReadError → String
  | empty => "cannot parse float from empty string"
  | invalid => "invalid float literal"

end ReadError

/-- An exponent of this size moves the point past all digits of any text of usual length. -/
def exponentBound : Nat := 65536

/-- The size of an exponent. Digits behind those that reach the bound do not count. -/
def exponentSizeFrom (value : Nat) : List Char → Nat
  | [] => value
  | c :: rest =>
    if exponentBound ≤ value then value
    else exponentSizeFrom (10 * value + (Digits.digit? c).getD 0) rest

/-- Below the bound an exponent is the number that its digits denote. -/
theorem exponentSizeFrom_eq_valueFrom {value : Nat} {digits : List Char}
    (below : Digits.valueFrom value digits < exponentBound) :
    exponentSizeFrom value digits = Digits.valueFrom value digits := by
  induction digits generalizing value with
  | nil => rfl
  | cons c rest ih =>
    have grows (start : Nat) (digits : List Char) : start ≤ Digits.valueFrom start digits := by
      induction digits generalizing start with
      | nil => exact Nat.le_refl _
      | cons d rest ih => exact Nat.le_trans (by omega) (ih (10 * start + (Digits.digit? d).getD 0))
    have small : ¬ exponentBound ≤ value :=
      Nat.not_le.mpr (Nat.lt_of_le_of_lt (grows value (c :: rest)) below)
    rw [exponentSizeFrom, if_neg small, ih below]
    rfl

/-- A non-empty run of digits with an optional sign. -/
def readExponent? : List Char → Option Int
  | [] => none
  | c :: rest =>
    let digits := if c = '-' ∨ c = '+' then rest else c :: rest
    if !digits.isEmpty && digits.all Digits.isDigit then
      let size : Int := exponentSizeFrom 0 digits
      some (if c = '-' then -size else size)
    else none

/-- What follows the digits: nothing, or an exponent behind its mark. -/
def readTail? : List Char → Option Int
  | [] => some 0
  | c :: rest => if c = 'e' ∨ c = 'E' then readExponent? rest else none

/-- Digits with an optional point, at least one digit in all, and an optional exponent. -/
def readDecimal? (text : List Char) : Option Decimal :=
  let whole := text.takeWhile Digits.isDigit
  let rest := text.dropWhile Digits.isDigit
  let (fraction, tail) := match rest with
    | '.' :: after => (after.takeWhile Digits.isDigit, after.dropWhile Digits.isDigit)
    | after => ([], after)
  if whole.isEmpty && fraction.isEmpty then none
  else (readTail? tail).map fun exponent =>
    ⟨Digits.value (whole ++ fraction), exponent - fraction.length⟩

/-- The magnitude that a decimal rounds to. -/
def ofDecimal (decimal : Decimal) : Nat := nearest decimal.numerator decimal.denominator

/-- The words that are no digits: infinity in two lengths, and what is no number. -/
def readWord? (negative : Bool) (text : List Char) : Option Binary64 :=
  let lower := text.map Char.toLower
  if lower = "inf".toList ∨ lower = "infinity".toList then
    some (ofParts negative infinity)
  else if lower = "nan".toList then some (nan negative)
  else none

/-- Read a number behind its sign. -/
def readUnsigned (negative : Bool) (text : List Char) : Except ReadError Binary64 :=
  match readDecimal? text with
  | some decimal => .ok (ofParts negative (ofDecimal decimal))
  | none =>
    match readWord? negative text with
    | some value => .ok value
    | none => .error .invalid

/-- Read a floating-point number. -/
def read : List Char → Except ReadError Binary64
  | [] => .error .empty
  | '-' :: rest => readUnsigned true rest
  | '+' :: rest => readUnsigned false rest
  | text => readUnsigned false text

end OwnedText.Binary64
