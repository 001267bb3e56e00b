import OwnedText.Proofs.Decimal.RoundTrip

/-! # Floating-point numbers read back

The reader takes a numeral apart just as it was put together, and rounds the rational that it denotes.
Since the text of a finite number rounds to that number alone, it reads as the number. The exponent of
such a text is small, so none of its digits is left out. The words for what is not finite read as what
they stand for.
-/

namespace OwnedText

open Binary64 (NearestEven infinity)

namespace Numeral

/-- The decimal that a numeral spells. -/
def decimal (numeral : Numeral) : Decimal :=
  ⟨Digits.value (numeral.whole ++ numeral.fraction),
    numeral.exponent.getD 0 - numeral.fraction.length⟩

private theorem readExponent?_exponentText {exponent : Int}
    (small : exponent.natAbs < Binary64.exponentBound) :
    Binary64.readExponent? (Binary64.exponentText exponent) = some exponent := by
  obtain ⟨first, rest, digits⟩ := List.exists_cons_of_ne_nil (Digits.ofNat_ne_nil exponent.natAbs)
  have all : ∀ c ∈ first :: rest, Digits.isDigit c = true :=
    fun c member => Digits.isDigit_of_mem_ofNat (digits ▸ member)
  have denoted : Digits.valueFrom 0 (first :: rest) = exponent.natAbs := by
    rw [← digits]
    exact Digits.value_ofNat exponent.natAbs
  have size : Binary64.exponentSizeFrom 0 (first :: rest) = exponent.natAbs := by
    rw [Binary64.exponentSizeFrom_eq_valueFrom (denoted.symm ▸ small), denoted]
  have run : (!(first :: rest).isEmpty && (first :: rest).all Digits.isDigit) = true := by
    rw [List.isEmpty_cons, Bool.not_false, Bool.true_and, List.all_eq_true]
    exact all
  unfold Binary64.exponentText
  rw [digits]
  split
  · simp only [Binary64.readExponent?, true_or, if_true, run, size, Option.some.injEq]
    omega
  · have minus : first ≠ '-' := by
      rintro rfl
      exact absurd (all '-' List.mem_cons_self) (by decide)
    have plus : first ≠ '+' := by
      rintro rfl
      exact absurd (all '+' List.mem_cons_self) (by decide)
    simp only [Binary64.readExponent?, minus, plus, or_self, if_false, run, size, if_true,
      Option.some.injEq]
    omega

private theorem readTail?_exponentPart {exponent : Option Int}
    (small : (exponent.getD 0).natAbs < Binary64.exponentBound) :
    Binary64.readTail? (exponentPart exponent) = some (exponent.getD 0) := by
  cases exponent with
  | none => rfl
  | some exponent => exact readExponent?_exponentText small

/-- The reader takes a numeral apart just as it was put together. -/
private theorem readDecimal?_body (numeral : Numeral)
    (small : (numeral.exponent.getD 0).natAbs < Binary64.exponentBound) :
    Binary64.readDecimal? numeral.body = some numeral.decimal := by
  have ends := fraction_ends numeral.fraction numeral.exponent
  have tail := readTail?_exponentPart small
  have nonempty : numeral.whole.isEmpty = false := List.isEmpty_eq_false_iff.mpr numeral.whole_ne_nil
  have digits := numeral.fraction_digits
  simp only [Binary64.readDecimal?, body, takeWhile_digits numeral.whole_digits ends,
    dropWhile_digits numeral.whole_digits ends, decimal, nonempty, Bool.false_and]
  cases fraction : numeral.fraction with
  | nil =>
    cases moved : numeral.exponent with
    | none => rfl
    | some exponent =>
      rw [moved] at tail
      exact congrArg (Option.map fun size =>
        (⟨Digits.value (numeral.whole ++ []), size - (0 : Nat)⟩ : Decimal)) tail
  | cons first rest =>
    rw [fraction] at digits
    have behind := exponentPart_ends numeral.exponent
    have taken := takeWhile_digits digits behind
    have left := dropWhile_digits digits behind
    simp only [fractionText, List.cons_append] at taken left ⊢
    simp only [taken, left, tail]
    rfl

end Numeral

namespace Binary64

theorem ofParts_eq (value : Binary64) : ofParts value.isNegative value.magnitude = value := by
  rw [ofParts, ← toNat_bits, UInt64.ofNat_toNat]

/-- What rounds to a magnitude is read as that one. -/
private theorem ofDecimal_eq {decimal : Decimal} {magnitude : Nat}
    (rounds : NearestEven decimal.value magnitude) : ofDecimal decimal = magnitude := by
  have nearest := nearestEven_nearest decimal.numerator decimal.denominator_pos
  rw [← decimal.value_eq_div] at nearest
  exact nearest.unique rounds

/-- A minus sign selects how the rest is read, and without a sign all is the rest. -/
theorem read_signed (negative : Bool) {first : Char} {rest : List Char} (minus : first ≠ '-')
    (plus : first ≠ '+') :
    read ((if negative then ['-'] else []) ++ first :: rest) = readUnsigned negative (first :: rest) := by
  cases negative with
  | true => rfl
  | false =>
    rw [if_neg Bool.false_ne_true, List.nil_append, read]
    · exact List.cons_ne_nil first rest
    · exact fun _ same => minus (List.cons.inj same).1
    · exact fun _ same => plus (List.cons.inj same).1

section Reading

variable {value : Binary64}

private theorem read_text_of_isFinite (finite : value.isFinite = true) : read value.text = .ok value := by
  obtain ⟨numeral, sign, small, body, nearest⟩ :=
    exists_numeral_of_magnitude value.isNegative (of_decide_eq_true finite)
  have spelled : readDecimal? numeral.body = some numeral.decimal :=
    numeral.readDecimal?_body (small.trans (by decide))
  have rounded : ofDecimal numeral.decimal = value.magnitude := ofDecimal_eq nearest
  obtain ⟨first, rest, digits, digit⟩ := numeral.exists_body_cons
  have minus : first ≠ '-' := by
    rintro rfl
    exact absurd digit (by decide)
  have plus : first ≠ '+' := by
    rintro rfl
    exact absurd digit (by decide)
  rw [text_of_isFinite finite, ← body, digits, read_signed _ minus plus, ← digits, readUnsigned, spelled]
  simp only [rounded, ofParts_eq]

private theorem read_text_of_infinite (infinite : value.magnitude = infinity) :
    read value.text = .ok value := by
  have word : "inf".toList = 'i' :: "nf".toList := by decide
  have whole : ofParts value.isNegative infinity = value := by rw [← infinite, ofParts_eq]
  rw [text_of_infinite infinite, word, read_signed _ (by decide) (by decide)]
  exact congrArg Except.ok whole

private theorem read_text_of_isNaN (notNumber : value.isNaN = true) : read value.text = .ok (nan false) := by
  rw [text_of_isNaN notNumber]
  rfl

/-- The text of a number reads as the number, and the word for no number as no number. -/
theorem read_text (value : Binary64) : ∃ result, read value.text = .ok result ∧
    (result = value ∨ result.isNaN = true ∧ value.isNaN = true) := by
  rcases finite_or_infinite_or_nan value with finite | infinite | notNumber
  · exact ⟨value, read_text_of_isFinite finite, .inl rfl⟩
  · exact ⟨value, read_text_of_infinite infinite, .inl rfl⟩
  · exact ⟨nan false, read_text_of_isNaN notNumber, .inr ⟨by decide, notNumber⟩⟩

end Reading

end Binary64

end OwnedText
