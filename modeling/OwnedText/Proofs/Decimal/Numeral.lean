import Mathlib
import OwnedText.Decimal.Notation
import OwnedText.Proofs.Decimal.Shortest

/-! # Decimal numerals

A numeral is a sign, digits, possibly a point with more digits behind it, and possibly a decimal
exponent. Its text determines each of these parts, because a run of digits ends where something else
stands. So a text denotes at most one rational, and both notations of a digit run with a point denote
the same one. What is written for a magnitude shows the digits of its shortest decimal, with zeros around
them only where a digit has to stand.
-/

namespace OwnedText

open Digits (isDigit)

/-- The parts of a numeral; there is a point only if a digit follows it. -/
@[ext]
structure Numeral where
  negative : Bool
  whole : List Char
  fraction : List Char
  exponent : Option Int
  whole_ne_nil : whole ≠ []
  whole_digits : ∀ c ∈ whole, isDigit c = true
  fraction_digits : ∀ c ∈ fraction, isDigit c = true

namespace Numeral

def fractionText : List Char → List Char
  | [] => []
  | first :: rest => '.' :: first :: rest

def exponentPart : Option Int → List Char
  | none => []
  | some exponent => 'e' :: Binary64.exponentText exponent

/-- What stands behind the sign. -/
def body (numeral : Numeral) : List Char :=
  numeral.whole ++ (fractionText numeral.fraction ++ exponentPart numeral.exponent)

def text (numeral : Numeral) : List Char := (if numeral.negative then ['-'] else []) ++ numeral.body

/-- The rational that a numeral denotes, apart from its sign. -/
def size (numeral : Numeral) : ℚ :=
  Digits.value (numeral.whole ++ numeral.fraction) *
    10 ^ (numeral.exponent.getD 0 - numeral.fraction.length)

/-- A rest without a digit in front. -/
def EndsDigits (rest : List Char) : Prop := ∀ c, rest.head? = some c → isDigit c = false

section Runs

variable {front rest front' rest' : List Char}

theorem takeWhile_digits (digits : ∀ c ∈ front, isDigit c = true) (ends : EndsDigits rest) :
    (front ++ rest).takeWhile isDigit = front := by
  rw [List.takeWhile_append_of_pos digits]
  cases rest with
  | nil => exact List.append_nil front
  | cons c rest => rw [List.takeWhile_cons_of_neg (by simp [ends c rfl]), List.append_nil]

theorem dropWhile_digits (digits : ∀ c ∈ front, isDigit c = true) (ends : EndsDigits rest) :
    (front ++ rest).dropWhile isDigit = rest := by
  rw [List.dropWhile_append_of_pos digits]
  cases rest with
  | nil => rfl
  | cons c rest => rw [List.dropWhile_cons_of_neg (by simp [ends c rfl])]

/-- A run of digits is all there is before the first other character. -/
theorem append_injective (digits : ∀ c ∈ front, isDigit c = true)
    (digits' : ∀ c ∈ front', isDigit c = true) (ends : EndsDigits rest) (ends' : EndsDigits rest')
    (same : front ++ rest = front' ++ rest') : front = front' ∧ rest = rest' := by
  have fronts : front = front' := by
    rw [← takeWhile_digits digits ends, same, takeWhile_digits digits' ends']
  exact ⟨fronts, List.append_cancel_left (fronts ▸ same)⟩

end Runs

theorem exponentText_injective : Function.Injective Binary64.exponentText := by
  have unsigned (size size' : Nat) : '-' :: Digits.ofNat size ≠ Digits.ofNat size' := by
    intro same
    have digit : isDigit '-' = true := Digits.isDigit_of_mem_ofNat (same ▸ List.mem_cons_self)
    exact absurd digit (by decide)
  intro exponent exponent' same
  unfold Binary64.exponentText at same
  split_ifs at same with negative negative' negative'
  · have sizes := Digits.ofNat_injective (List.cons.inj same).2
    omega
  · exact absurd same (unsigned _ _)
  · exact absurd same.symm (unsigned _ _)
  · have sizes := Digits.ofNat_injective same
    omega

theorem exponentPart_injective : Function.Injective exponentPart := by
  rintro (_ | exponent) (_ | exponent') same
  · rfl
  · exact absurd same (List.cons_ne_nil _ _).symm
  · exact absurd same (List.cons_ne_nil _ _)
  · exact congrArg some (exponentText_injective (List.cons.inj same).2)

theorem exponentPart_ends (exponent : Option Int) : EndsDigits (exponentPart exponent) := by
  rintro c head
  cases exponent with
  | none => exact absurd head (by simp [exponentPart])
  | some exponent =>
    obtain rfl : 'e' = c := Option.some.inj head
    decide

theorem fraction_ends (fraction : List Char) (exponent : Option Int) :
    EndsDigits (fractionText fraction ++ exponentPart exponent) := by
  cases fraction with
  | nil => exact exponentPart_ends exponent
  | cons first rest =>
    intro c head
    obtain rfl : '.' = c := Option.some.inj head
    decide

private theorem fraction_injective {fraction fraction' : List Char} {exponent exponent' : Option Int}
    (digits : ∀ c ∈ fraction, isDigit c = true) (digits' : ∀ c ∈ fraction', isDigit c = true)
    (same : fractionText fraction ++ exponentPart exponent =
      fractionText fraction' ++ exponentPart exponent') :
    fraction = fraction' ∧ exponent = exponent' := by
  have noPoint (exponent : Option Int) (rest : List Char) : exponentPart exponent ≠ '.' :: rest := by
    cases exponent with
    | none => exact (List.cons_ne_nil _ _).symm
    | some exponent =>
      intro same
      exact absurd (List.cons.inj same).1 (by decide)
  cases fraction with
  | nil =>
    cases fraction' with
    | nil => exact ⟨rfl, exponentPart_injective same⟩
    | cons first' rest' => exact absurd same (noPoint exponent _)
  | cons first rest =>
    cases fraction' with
    | nil => exact absurd same.symm (noPoint exponent' _)
    | cons first' rest' =>
      obtain ⟨fractions, exponents⟩ := append_injective digits digits' (exponentPart_ends exponent)
        (exponentPart_ends exponent') (List.cons.inj same).2
      exact ⟨fractions, exponentPart_injective exponents⟩

theorem body_injective {numeral other : Numeral} (sign : numeral.negative = other.negative)
    (same : numeral.body = other.body) : numeral = other := by
  obtain ⟨wholes, rests⟩ := append_injective numeral.whole_digits other.whole_digits
    (fraction_ends _ _) (fraction_ends _ _) same
  obtain ⟨fractions, exponents⟩ := fraction_injective numeral.fraction_digits other.fraction_digits rests
  exact Numeral.ext sign wholes fractions exponents

/-- Behind the sign comes a digit. -/
theorem exists_body_cons (numeral : Numeral) :
    ∃ first rest, numeral.body = first :: rest ∧ isDigit first = true := by
  obtain ⟨first, more, whole⟩ := List.exists_cons_of_ne_nil numeral.whole_ne_nil
  have digit := numeral.whole_digits first (whole ▸ List.mem_cons_self)
  exact ⟨first, more ++ (fractionText numeral.fraction ++ exponentPart numeral.exponent),
    by rw [body, whole, List.cons_append], digit⟩

theorem body_ne_minus (numeral : Numeral) (rest : List Char) : numeral.body ≠ '-' :: rest := by
  obtain ⟨first, more, body, digit⟩ := numeral.exists_body_cons
  rw [body]
  intro same
  rw [(List.cons.inj same).1] at digit
  exact absurd digit (by decide)

/-- Two numerals of one text are one numeral. -/
theorem text_injective : Function.Injective text := by
  intro numeral other same
  unfold text at same
  cases sign : numeral.negative <;> cases sign' : other.negative <;> rw [sign, sign'] at same
  · exact body_injective (sign.trans sign'.symm) same
  · exact absurd same (body_ne_minus numeral _)
  · exact absurd same.symm (body_ne_minus other _)
  · exact body_injective (sign.trans sign'.symm) (List.cons.inj same).2

theorem character_of_mem_exponentText {exponent : Int} {c : Char}
    (member : c ∈ Binary64.exponentText exponent) : isDigit c = true ∨ c = '-' := by
  unfold Binary64.exponentText at member
  split at member
  · rcases List.mem_cons.mp member with sign | digit
    · exact .inr sign
    · exact .inl (Digits.isDigit_of_mem_ofNat digit)
  · exact .inl (Digits.isDigit_of_mem_ofNat member)

/-- Numerals are written with digits, a minus sign, a point and the mark of an exponent. -/
theorem character_of_mem_text {numeral : Numeral} {c : Char} (member : c ∈ numeral.text) :
    isDigit c = true ∨ c = '-' ∨ c = '.' ∨ c = 'e' := by
  rw [text, body, List.mem_append, List.mem_append, List.mem_append] at member
  rcases member with sign | whole | fraction | exponent
  · split at sign
    · exact .inr (.inl (List.mem_singleton.mp sign))
    · exact absurd sign List.not_mem_nil
  · exact .inl (numeral.whole_digits c whole)
  · cases digits : numeral.fraction with
    | nil => exact absurd (digits ▸ fraction) List.not_mem_nil
    | cons first rest =>
      rw [digits] at fraction
      rcases List.mem_cons.mp fraction with point | digit
      · exact .inr (.inr (.inl point))
      · exact .inl (numeral.fraction_digits c (digits ▸ digit))
  · cases value : numeral.exponent with
    | none => exact absurd (value ▸ exponent) List.not_mem_nil
    | some size =>
      rw [value] at exponent
      rcases List.mem_cons.mp exponent with mark | rest
      · exact .inr (.inr (.inr mark))
      · rcases character_of_mem_exponentText rest with digit | sign
        · exact .inl digit
        · exact .inr (.inl sign)

theorem ascii_text (numeral : Numeral) : ∀ c ∈ numeral.text, c.toNat < 128 := by
  intro c member
  rcases character_of_mem_text member with digit | rfl | rfl | rfl
  · exact Digits.toNat_lt_of_isDigit digit
  · decide
  · decide
  · decide

/-- Digits on both sides of a point. -/
theorem exists_pointed (negative : Bool) {front back : List Char} (whole : front ≠ [])
    (fraction : back ≠ []) (digits : ∀ c ∈ front ++ back, isDigit c = true) :
    ∃ numeral : Numeral, numeral.negative = negative ∧ numeral.exponent = none ∧
      numeral.body = front ++ '.' :: back ∧
        numeral.size = Digits.value (front ++ back) * 10 ^ (-back.length : Int) ∧
          numeral.whole = front ∧ numeral.fraction = back := by
  have first (c : Char) (member : c ∈ front) := digits c (List.mem_append_left back member)
  have second (c : Char) (member : c ∈ back) := digits c (List.mem_append_right front member)
  refine ⟨⟨negative, front, back, none, whole, first, second⟩, rfl, rfl, ?_, ?_, rfl, rfl⟩
  · obtain ⟨first, rest, rfl⟩ := List.exists_cons_of_ne_nil fraction
    rw [body, fractionText, exponentPart, List.append_nil]
  · rw [size, Option.getD_none, zero_sub]

/-- Digits between zeros, and a point among them all. There are zeros in front only if a single zero stands
before the point, and zeros behind only if a single zero stands after it. -/
structure Pointed (digits : List Char) (point : Int) (front back : List Char) : Prop where
  front_ne_nil : front ≠ []
  back_ne_nil : back ≠ []
  padded : ∃ leading trailing, front ++ back =
    List.replicate leading '0' ++ digits ++ List.replicate trailing '0' ∧
      (back.length : Int) = digits.length + trailing - point ∧
        (leading = 0 ∨ front = ['0']) ∧ (trailing = 0 ∨ back = ['0'])

section Notations

variable (negative : Bool) {digits : List Char} (point : Int) (nonempty : digits ≠ [])
include nonempty

/-- Padding with zeros on either side moves digits to where the point is. -/
private theorem exists_pointed_positional :
    ∃ front back, Binary64.positional digits point = front ++ '.' :: back ∧
      Pointed digits point front back := by
  have length := List.length_pos_iff.mpr nonempty
  unfold Binary64.positional
  split_ifs with small large
  · refine ⟨['0'], List.replicate (-point).toNat '0' ++ digits, rfl, List.cons_ne_nil _ _,
      List.append_ne_nil_of_right_ne_nil _ nonempty, (-point).toNat + 1, 0, ?_, ?_, .inr rfl, .inl rfl⟩
    · rw [List.replicate_zero, List.append_nil, List.replicate_succ]
      rfl
    · rw [List.length_append, List.length_replicate]
      omega
  · refine ⟨digits ++ List.replicate (point.toNat - digits.length) '0', ['0'], rfl,
      List.append_ne_nil_of_left_ne_nil nonempty _, List.cons_ne_nil _ _, 0,
      point.toNat - digits.length + 1, ?_, ?_, .inl rfl, .inr rfl⟩
    · rw [List.replicate_zero, List.nil_append, List.replicate_succ', List.append_assoc]
    · rw [List.length_singleton]
      omega
  · refine ⟨digits.take point.toNat, digits.drop point.toNat, rfl,
      List.ne_nil_of_length_pos (by rw [List.length_take]; omega),
      List.ne_nil_of_length_pos (by rw [List.length_drop]; omega), 0, 0, ?_, ?_, .inl rfl, .inl rfl⟩
    · rw [List.take_append_drop, List.replicate_zero, List.nil_append, List.append_nil]
    · rw [List.length_drop]
      omega

variable (all : ∀ c ∈ digits, isDigit c = true)
include all

/-- The point stands among the digits themselves, or among zeros around them. -/
private theorem exists_positional :
    ∃ numeral : Numeral, numeral.negative = negative ∧ numeral.exponent = none ∧
      numeral.body = Binary64.positional digits point ∧
        numeral.size = Digits.value digits * 10 ^ (point - digits.length) ∧
          Pointed digits point numeral.whole numeral.fraction := by
  obtain ⟨front, back, spelled, pointed⟩ := exists_pointed_positional point nonempty
  obtain ⟨leading, trailing, padded, places, _⟩ := pointed.padded
  have zero : isDigit '0' = true := by decide
  have digit : ∀ c ∈ front ++ back, isDigit c = true := by
    intro c member
    rw [padded] at member
    simp only [List.mem_append, List.mem_replicate] at member
    obtain (⟨_, rfl⟩ | digit) | ⟨_, rfl⟩ := member
    · exact zero
    · exact all c digit
    · exact zero
  obtain ⟨numeral, sign, unmoved, body, size, rfl, rfl⟩ :=
    exists_pointed negative pointed.front_ne_nil pointed.back_ne_nil digit
  refine ⟨numeral, sign, unmoved, body.trans spelled.symm, ?_, pointed⟩
  have exponent : (trailing : Int) + -numeral.fraction.length = point - digits.length := by omega
  rw [size, padded, Digits.value_append, Digits.value_append, Digits.value_zeros, Digits.value_zeros,
    List.length_replicate, Nat.zero_mul, Nat.zero_add, Nat.add_zero, Nat.cast_mul, Nat.cast_pow,
    Nat.cast_ofNat, mul_assoc, ← zpow_natCast, ← zpow_add₀ (by norm_num), exponent]

/-- The exponent undoes the move of the point behind the first digit. -/
private theorem exists_scientific :
    ∃ numeral : Numeral, numeral.negative = negative ∧ numeral.exponent = some (point - 1) ∧
      numeral.body = Binary64.scientific digits point ∧
        numeral.size = Digits.value digits * 10 ^ (point - digits.length) ∧
          numeral.whole ++ numeral.fraction = digits ∧ numeral.whole.length = 1 := by
  obtain ⟨first, rest, rfl⟩ := List.exists_cons_of_ne_nil nonempty
  have digit : ∀ c ∈ [first], isDigit c = true := by
    intro c member
    exact all c (List.mem_singleton.mp member ▸ List.mem_cons_self)
  refine ⟨⟨negative, [first], rest, some (point - 1), List.cons_ne_nil _ _, digit,
    fun c member => all c (List.mem_cons_of_mem _ member)⟩, rfl, rfl, ?_, ?_, rfl, rfl⟩
  · cases rest <;> rfl
  · rw [size, List.length_cons]
    congr 2
    push_cast
    simp only [Option.getD_some]
    ring

end Notations

/-- A numeral in the notation that a magnitude calls for: it denotes the shortest decimal and shows the digits
of that decimal. -/
structure Writes (numeral : Numeral) (magnitude : Nat) : Prop where
  body : numeral.body = Binary64.magnitudeText magnitude
  size : numeral.size = (Decimal.shortest magnitude).value
  plain : Binary64.isPlain magnitude = true → numeral.exponent = none ∧
    Pointed (Digits.ofNat (Decimal.shortest magnitude).digits)
      ((Digits.ofNat (Decimal.shortest magnitude).digits).length + (Decimal.shortest magnitude).exponent)
      numeral.whole numeral.fraction
  moved : Binary64.isPlain magnitude ≠ true →
    numeral.exponent = some ((Digits.ofNat (Decimal.shortest magnitude).digits).length +
      (Decimal.shortest magnitude).exponent - 1) ∧
    numeral.whole ++ numeral.fraction = Digits.ofNat (Decimal.shortest magnitude).digits ∧
    numeral.whole.length = 1

theorem exists_writes (negative : Bool) {magnitude : Nat} (positive : magnitude ≠ 0) :
    ∃ numeral : Numeral, numeral.negative = negative ∧ numeral.Writes magnitude := by
  have nonempty := Digits.ofNat_ne_nil (Decimal.shortest magnitude).digits
  have all (c : Char) (member : c ∈ Digits.ofNat (Decimal.shortest magnitude).digits) :
      isDigit c = true := Digits.isDigit_of_mem_ofNat member
  have text : Binary64.magnitudeText magnitude = _ := if_neg positive
  by_cases plain : Binary64.isPlain magnitude = true
  · obtain ⟨numeral, sign, unmoved, body, size, pointed⟩ := exists_positional negative
      ((Digits.ofNat (Decimal.shortest magnitude).digits).length + (Decimal.shortest magnitude).exponent)
      nonempty all
    rw [Digits.value_ofNat, add_sub_cancel_left] at size
    exact ⟨numeral, sign, body.trans (text.trans (if_pos plain)).symm, size, fun _ => ⟨unmoved, pointed⟩,
      fun scientific => absurd plain scientific⟩
  · obtain ⟨numeral, sign, moved, body, size, shown⟩ := exists_scientific negative
      ((Digits.ofNat (Decimal.shortest magnitude).digits).length + (Decimal.shortest magnitude).exponent)
      nonempty all
    rw [Digits.value_ofNat, add_sub_cancel_left] at size
    exact ⟨numeral, sign, body.trans (text.trans (if_neg plain)).symm, size,
      fun positional => absurd positional plain, fun _ => ⟨moved, shown⟩⟩

end Numeral

end OwnedText
