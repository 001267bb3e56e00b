import OwnedText.Proofs.CallerBuffer
import OwnedText.Proofs.Decimal.Integer

/-! # One spelling for every integer

Integers can be spelled with zeros in front, with a plus sign, and zero also with a minus sign. The
canonical spelling has none of these, and there is one for every integer: digits without a leading zero
are determined by the number that they denote, and the sign is determined by the integer. So the written
forms of the integers in range are the canonical texts that denote one, each written for one integer.
-/

namespace OwnedText

open CallerBuffer (asciiBytes asciiText composed put)

namespace Integer

open Digits (isDigit)

/-- A minus sign or none, and digits; the first of them is a zero in one text only. -/
structure Canonical (text : List Char) (negative : Bool) (digits : List Char) : Prop where
  spelled : text = (if negative then ['-'] else []) ++ digits
  nonempty : digits ≠ []
  all : ∀ c ∈ digits, isDigit c = true
  lead : digits.head? = some '0' → text = ['0']

/-- The written form is canonical, with a minus sign if the integer is negative. -/
theorem canonical_text (value : Int) :
    Canonical (Integer.text value) (decide (value < 0)) (Digits.ofNat value.natAbs) where
  spelled := by
    unfold Integer.text
    by_cases negative : value < 0
    · rw [if_pos negative, decide_eq_true negative]
      rfl
    · rw [if_neg negative, decide_eq_false negative]
      rfl
  nonempty := Digits.ofNat_ne_nil value.natAbs
  all _ member := Digits.isDigit_of_mem_ofNat member
  lead zero := by
    rcases Nat.eq_zero_or_pos value.natAbs with none | positive
    · rw [Int.natAbs_eq_zero.mp none]
      exact Digits.ofNat_zero
    · exact absurd zero (Digits.head?_ofNat_ne positive)

/-- A canonical text is the written form of the integer that it denotes. -/
theorem Canonical.text_eq {text digits : List Char} {negative : Bool} {value : Int}
    (canonical : Canonical text negative digits) (denotes : Denotes text value) :
    Integer.text value = text := by
  obtain ⟨spelled, nonempty, all, lead⟩ := canonical
  cases negative with
  | true =>
    obtain rfl : text = '-' :: digits := spelled
    obtain rfl := denotes.unique (.negative nonempty all)
    have first : digits.head? ≠ some '0' := fun zero => absurd (lead zero) (by simp)
    have positive := Digits.value_pos nonempty all first
    rw [Integer.text, if_pos (by omega), Int.natAbs_neg, Int.natAbs_natCast,
      Digits.ofNat_value nonempty all first]
  | false =>
    obtain rfl : text = digits := spelled
    obtain rfl := denotes.unique (.unsigned nonempty all)
    rw [Integer.text, if_neg (by omega), Int.natAbs_natCast]
    by_cases zero : text.head? = some '0'
    · obtain rfl : text = ['0'] := lead zero
      exact Digits.ofNat_zero
    · exact Digits.ofNat_value nonempty all zero

theorem composed_int (value : Int64) : composed (.int value) = asciiBytes (Integer.text value.toInt) :=
  CallerBuffer.composed_of_le
    ((length_text_le (inRange_toInt value)).trans (by decide : 20 ≤ Scalar.intCapacity))

theorem asciiText_composed (value : Int64) :
    asciiText (composed (.int value)) = Integer.text value.toInt := by
  rw [composed_int, CallerBuffer.asciiText_asciiBytes (ascii_text value.toInt)]

/-- The bytes of an integer are written whole where there is room for them. They spell a canonical text
with the sign of the integer, read as the integer, and are the bytes of every canonical text that denotes
it. -/
structure CanonicalText (value : Int64) : Prop where
  written : ∀ buffer : List UInt8, (composed (.int value)).length ≤ buffer.length →
    put (.int value) buffer = .ok ((composed (.int value)).length,
      composed (.int value) ++ buffer.drop (composed (.int value)).length)
  canonical : ∃ digits,
    Canonical (asciiText (composed (.int value))) (decide (value.toInt < 0)) digits
  denotes : Denotes (asciiText (composed (.int value))) value.toInt
  reads : read (asciiText (composed (.int value))) = .ok value.toInt
  only : ∀ text negative digits, Canonical text negative digits → Denotes text value.toInt →
    asciiBytes text = composed (.int value)

theorem canonicalText (value : Int64) : CanonicalText value where
  written _ room := CallerBuffer.put_of_le room
  canonical := by
    rw [asciiText_composed]
    exact ⟨_, canonical_text value.toInt⟩
  denotes := by
    rw [asciiText_composed]
    exact denotes_text value.toInt
  reads := by
    rw [asciiText_composed]
    exact read_text (inRange_toInt value)
  only text negative digits canonical denotes := by
    rw [composed_int, canonical.text_eq denotes]

/-- The bytes of the canonical texts that denote an integer in range. -/
def canonicalTexts : Set (List UInt8) :=
  {bytes | ∃ text negative digits value, Canonical text negative digits ∧ Denotes text value ∧
    InRange value ∧ asciiBytes text = bytes}

/-- Each integer in range is written as the one canonical text that denotes it, and each canonical text
that denotes an integer in range is what that integer is written as. -/
theorem bijOn_canonicalTexts : (∀ value : Int64, CanonicalText value) ∧
    Set.BijOn (fun value : Int64 => composed (.int value)) Set.univ canonicalTexts := by
  refine ⟨canonicalText, ?_, ?_, ?_⟩
  · intro value _
    exact ⟨Integer.text value.toInt, _, _, value.toInt, canonical_text value.toInt,
      denotes_text value.toInt, inRange_toInt value, (composed_int value).symm⟩
  · intro value _ other _ same
    have reads := (canonicalText value).reads
    have reads' := (canonicalText other).reads
    simp only at same
    rw [same, reads'] at reads
    exact Int64.toInt_inj.mp (Except.ok.inj reads).symm
  · rintro _ ⟨text, negative, digits, value, canonical, denotes, inside, rfl⟩
    refine ⟨Int64.ofInt value, Set.mem_univ _, ?_⟩
    simp only
    rw [composed_int, toInt_ofInt inside, canonical.text_eq denotes]

end Integer

end OwnedText
