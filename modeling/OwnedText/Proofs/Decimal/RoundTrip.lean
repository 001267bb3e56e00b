import Mathlib
import OwnedText.Proofs.CallerBuffer
import OwnedText.Proofs.Decimal.Numeral

/-! # Floating-point numbers survive as text

The text of a finite number is a numeral with its sign, and the rational that the numeral denotes rounds
to its magnitude and to no other. The words for infinity and for no number contain letters that no
numeral has. So a text tells apart whatever is not equally no number, and as no text is longer than its
scratch, all of it reaches the buffer.
-/

namespace OwnedText

open Binary64 (NearestEven infinity)

/-- The sign of a numeral with the rounding of its size is this number. -/
def Numeral.RoundsTo (numeral : Numeral) (result : Binary64) : Prop :=
  result.isNegative = numeral.negative ∧ NearestEven numeral.size result.magnitude

theorem Numeral.RoundsTo.unique {numeral : Numeral} {result other : Binary64}
    (rounds : numeral.RoundsTo result) (rounds' : numeral.RoundsTo other) : result = other :=
  Binary64.eq_of_parts (rounds.1.trans rounds'.1.symm) (rounds.2.unique rounds'.2)

namespace Binary64

/-- Either notation is a numeral that rounds to the magnitude, and its exponent is small. -/
theorem exists_numeral_of_magnitude (negative : Bool) {magnitude : Nat} (finite : magnitude < infinity) :
    ∃ numeral : Numeral, numeral.negative = negative ∧ (numeral.exponent.getD 0).natAbs < 1000 ∧
      numeral.body = magnitudeText magnitude ∧ NearestEven numeral.size magnitude := by
  rcases Nat.eq_zero_or_pos magnitude with rfl | positive
  · have digits (c : Char) (member : c ∈ List.replicate 2 '0') : Digits.isDigit c = true := by
      obtain rfl := List.eq_of_mem_replicate member
      decide
    obtain ⟨numeral, sign, unmoved, body, size, _⟩ := Numeral.exists_pointed negative
      (List.cons_ne_nil '0' []) (List.cons_ne_nil '0' []) digits
    have zero : Digits.value (['0'] ++ ['0']) = 0 := Digits.value_zeros 2
    refine ⟨numeral, sign, by rw [unmoved]; decide, body, ?_⟩
    rw [size, zero, Nat.cast_zero, zero_mul]
    exact nearestEven_zero
  · obtain ⟨numeral, sign, writes⟩ := Numeral.exists_writes negative positive.ne'
    have nearest := Decimal.nearestEven_shortest positive.ne' finite
    refine ⟨numeral, sign, ?_, writes.body, writes.size ▸ nearest⟩
    by_cases plain : isPlain magnitude = true
    · rw [(writes.plain plain).1]
      decide
    · obtain ⟨lower, upper⟩ := Decimal.shortest_point positive.ne' finite
      obtain ⟨lowest, highest⟩ := Decimal.order_bounds magnitude
      rw [(writes.moved plain).1, Option.getD_some]
      omega

private theorem length_positional_le {digits : List Char} {point : Int} (few : digits.length ≤ 17)
    (lower : -3 ≤ point) (upper : point ≤ 17) : (positional digits point).length ≤ 22 := by
  rw [positional]
  split_ifs with small large
  · simp only [List.length_cons, List.length_append, List.length_replicate]
    omega
  · simp only [List.length_cons, List.length_append, List.length_replicate, List.length_nil]
    omega
  · simp only [List.length_cons, List.length_append, List.length_take, List.length_drop]
    omega

private theorem length_exponentText_le {exponent : Int} (small : exponent.natAbs < 1000) :
    (exponentText exponent).length ≤ 4 := by
  have digits := (Digits.length_ofNat_le_iff (by decide : 0 < 3)).mpr small
  rw [exponentText]
  split
  · exact Nat.succ_le_succ digits
  · exact digits.trans (by decide)

private theorem length_scientific_le {digits : List Char} {point : Int} (few : digits.length ≤ 17)
    (small : (point - 1).natAbs < 1000) : (scientific digits point).length ≤ 23 := by
  have exponent := length_exponentText_le small
  unfold scientific
  rcases digits with _ | ⟨first, _ | ⟨second, rest⟩⟩ <;>
    simp only [List.length_append, List.length_cons, List.length_nil] at few ⊢ <;> omega

private theorem length_magnitudeText_le {magnitude : Nat} (finite : magnitude < infinity) :
    (magnitudeText magnitude).length ≤ 23 := by
  rcases Nat.eq_zero_or_pos magnitude with rfl | positive
  · decide
  · have few := (Digits.length_ofNat_le_iff (by decide : 0 < 17)).mpr
      (Decimal.shortest_digits positive.ne' finite).2
    obtain ⟨lower, upper⟩ := Decimal.shortest_point positive.ne' finite
    obtain ⟨lowest, highest⟩ := Decimal.order_bounds magnitude
    rw [magnitudeText, if_neg positive.ne']
    dsimp only
    split
    · rename_i plain
      rw [isPlain, decide_eq_true_eq] at plain
      have shorter := length_positional_le few (lower.trans' plain.1) (by omega)
      omega
    · exact length_scientific_le few (by omega)

/-- A finite number, an infinity, or no number. -/
theorem finite_or_infinite_or_nan (value : Binary64) :
    value.isFinite = true ∨ value.magnitude = infinity ∨ value.isNaN = true := by
  unfold isFinite isNaN
  rw [decide_eq_true_eq, decide_eq_true_eq]
  omega

section Text

variable {value : Binary64}

theorem text_of_isNaN (notNumber : value.isNaN = true) : value.text = "NaN".toList := if_pos notNumber

theorem text_of_isFinite (finite : value.isFinite = true) :
    value.text = (if value.isNegative then ['-'] else []) ++ magnitudeText value.magnitude := by
  have number : ¬ value.isNaN = true := by
    unfold isFinite at finite
    rw [isNaN]
    rw [decide_eq_true_eq] at finite ⊢
    omega
  rw [text, if_neg number, if_pos finite]

theorem text_of_infinite (infinite : value.magnitude = infinity) :
    value.text = (if value.isNegative then ['-'] else []) ++ "inf".toList := by
  have number : ¬ value.isNaN = true := by simp [isNaN, infinite]
  have large : ¬ value.isFinite = true := by simp [isFinite, infinite]
  rw [text, if_neg number, if_neg large]

/-- No text is longer than 24 characters. -/
theorem length_text_le (value : Binary64) : value.text.length ≤ 24 := by
  rcases finite_or_infinite_or_nan value with finite | infinite | notNumber
  · have rest := length_magnitudeText_le (of_decide_eq_true finite)
    rw [text_of_isFinite finite, List.length_append]
    split <;> simp only [List.length_cons, List.length_nil] <;> omega
  · rw [text_of_infinite infinite, List.length_append]
    split <;> decide
  · rw [text_of_isNaN notNumber]
    decide

/-- The text of a finite number is a numeral that rounds to it. -/
theorem exists_numeral (finite : value.isFinite = true) :
    ∃ numeral : Numeral, numeral.text = value.text ∧ numeral.RoundsTo value := by
  obtain ⟨numeral, sign, _, body, nearest⟩ :=
    exists_numeral_of_magnitude value.isNegative (of_decide_eq_true finite)
  refine ⟨numeral, ?_, sign.symm, nearest⟩
  rw [Numeral.text, sign, body, text_of_isFinite finite]

/-- What is not finite is written with a letter that no numeral has. -/
theorem text_ne_numeral (notFinite : value.isFinite ≠ true) (numeral : Numeral) :
    numeral.text ≠ value.text := by
  have foreign {c : Char} (letter : c = 'N' ∨ c = 'i') : c ∉ numeral.text := by
    intro member
    rcases letter with rfl | rfl <;> exact absurd (Numeral.character_of_mem_text member) (by decide)
  intro same
  rcases (finite_or_infinite_or_nan value).resolve_left notFinite with infinite | notNumber
  · rw [text_of_infinite infinite] at same
    exact foreign (.inr rfl) (same ▸ List.mem_append_right _ (by decide))
  · rw [text_of_isNaN notNumber] at same
    exact foreign (.inl rfl) (same ▸ by decide)

theorem ascii_text (value : Binary64) : ∀ c ∈ value.text, c.toNat < 128 := by
  rcases finite_or_infinite_or_nan value with finite | infinite | notNumber
  · obtain ⟨numeral, text, _⟩ := exists_numeral finite
    rw [← text]
    exact numeral.ascii_text
  · rw [text_of_infinite infinite]
    cases value.isNegative <;> simp
  · rw [text_of_isNaN notNumber]
    simp

/-- Infinities have a sign, and whatever is no number has none. -/
theorem eq_of_text_eq_of_infinite {other : Binary64} (infinite : value.magnitude = infinity)
    (notFinite : other.isFinite ≠ true) (same : other.text = value.text) : other = value := by
  rw [text_of_infinite infinite] at same
  rcases (finite_or_infinite_or_nan other).resolve_left notFinite with infinite' | notNumber
  · rw [text_of_infinite infinite'] at same
    refine eq_of_parts ?_ (infinite'.trans infinite.symm)
    cases sign : other.isNegative <;> cases sign' : value.isNegative <;> rw [sign, sign'] at same
    · exact absurd same (by decide)
    · exact absurd same (by decide)
  · rw [text_of_isNaN notNumber] at same
    cases sign : value.isNegative <;> rw [sign] at same <;> exact absurd same (by decide)

/-- A text tells its number, unless there is no number. -/
theorem text_eq_iff {other : Binary64} :
    other.text = value.text ↔ other = value ∨ other.isNaN = true ∧ value.isNaN = true := by
  constructor
  · intro same
    by_cases finite : value.isFinite = true
    · obtain ⟨numeral, text, rounds⟩ := exists_numeral finite
      by_cases finite' : other.isFinite = true
      · obtain ⟨numeral', text', rounds'⟩ := exists_numeral finite'
        obtain rfl := Numeral.text_injective (text.trans (same.symm.trans text'.symm))
        exact .inl (rounds'.unique rounds)
      · exact absurd (text.trans same.symm) (text_ne_numeral finite' numeral)
    · by_cases finite' : other.isFinite = true
      · obtain ⟨numeral', text', _⟩ := exists_numeral finite'
        exact absurd (text'.trans same) (text_ne_numeral finite numeral')
      · rcases (finite_or_infinite_or_nan value).resolve_left finite with infinite | notNumber
        · exact .inl (eq_of_text_eq_of_infinite infinite finite' same)
        · rcases (finite_or_infinite_or_nan other).resolve_left finite' with infinite' | notNumber'
          · exact .inl (eq_of_text_eq_of_infinite infinite' finite same.symm).symm
          · exact .inr ⟨notNumber', notNumber⟩
  · rintro (rfl | ⟨notNumber, notNumber'⟩)
    · rfl
    · rw [text_of_isNaN notNumber, text_of_isNaN notNumber']

end Text

end Binary64

open CallerBuffer (asciiBytes composed put)

/-- The bytes of a number are written whole where there is room for them. Those of a finite number are a
numeral, and as whatever numeral they are read, it has the sign of the number and rounds to the number
alone. The others are words, and bytes differ wherever numbers do. -/
structure FaithfulText (value : Binary64) : Prop where
  written : ∀ buffer : List UInt8, (composed (.float value)).length ≤ buffer.length →
    put (.float value) buffer = .ok ((composed (.float value)).length,
      composed (.float value) ++ buffer.drop (composed (.float value)).length)
  is_numeral : value.isFinite = true →
    ∃ numeral : Numeral, asciiBytes numeral.text = composed (.float value)
  rounds : value.isFinite = true →
    ∀ numeral : Numeral, asciiBytes numeral.text = composed (.float value) →
      numeral.negative = value.isNegative ∧ ∀ result, numeral.RoundsTo result ↔ result = value
  not_number : value.isNaN = true → composed (.float value) = asciiBytes "NaN".toList
  infinite : value.magnitude = infinity →
    composed (.float value) = asciiBytes (if value.isNegative then "-inf".toList else "inf".toList)
  same_iff : ∀ other : Binary64, composed (.float other) = composed (.float value) ↔
    other = value ∨ other.isNaN = true ∧ value.isNaN = true

theorem CallerBuffer.composed_float (value : Binary64) :
    composed (.float value) = asciiBytes value.text :=
  composed_of_le (value.length_text_le.trans (by decide : 24 ≤ Scalar.floatCapacity))

/-- Every bit pattern has a faithful text. -/
theorem faithfulText (value : Binary64) : FaithfulText value where
  written _ room := CallerBuffer.put_of_le room
  is_numeral finite := by
    obtain ⟨numeral, text, _⟩ := Binary64.exists_numeral finite
    refine ⟨numeral, ?_⟩
    rw [CallerBuffer.composed_float, text]
  rounds finite numeral same := by
    obtain ⟨expected, text, rounds⟩ := Binary64.exists_numeral finite
    rw [CallerBuffer.composed_float] at same
    have spelled := CallerBuffer.eq_of_asciiBytes_eq numeral.ascii_text value.ascii_text same
    obtain rfl := Numeral.text_injective (spelled.trans text.symm)
    refine ⟨rounds.1.symm, ?_⟩
    intro result
    constructor
    · intro rounds'
      exact rounds'.unique rounds
    · rintro rfl
      exact rounds
  not_number notNumber := by rw [CallerBuffer.composed_float, Binary64.text_of_isNaN notNumber]
  infinite infinite := by
    rw [CallerBuffer.composed_float, Binary64.text_of_infinite infinite]
    cases value.isNegative <;> rfl
  same_iff other := by
    rw [CallerBuffer.composed_float, CallerBuffer.composed_float, ← Binary64.text_eq_iff]
    constructor
    · exact CallerBuffer.eq_of_asciiBytes_eq other.ascii_text value.ascii_text
    · exact congrArg asciiBytes

end OwnedText
