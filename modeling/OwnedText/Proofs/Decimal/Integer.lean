import OwnedText.Decimal.Integer
import OwnedText.Proofs.Decimal.Numeral

/-! # Integers read back

A text denotes an integer if it is a run of digits, at least one, behind at most one sign. The value read
so far moves away from zero with every digit, so a value that has left the range does not come back:
what reads is what denotes an integer in range. Of all texts that denote an integer one is its written
form.
-/

namespace OwnedText

theorem Digits.le_valueFrom (before : Nat) (digits : List Char) : before ≤ valueFrom before digits := by
  have power : 0 < 10 ^ digits.length := Nat.pow_pos (by decide)
  rw [valueFrom_eq]
  exact (Nat.le_mul_of_pos_right before power).trans (Nat.le_add_right _ _)

namespace Integer

open Digits (isDigit)

/-- The integer that a text denotes. -/
inductive Denotes : List Char → Int → Prop
  | unsigned {digits : List Char} (nonempty : digits ≠ []) (all : ∀ c ∈ digits, isDigit c = true) :
    Denotes digits (Digits.value digits)
  | positive {digits : List Char} (nonempty : digits ≠ []) (all : ∀ c ∈ digits, isDigit c = true) :
    Denotes ('+' :: digits) (Digits.value digits)
  | negative {digits : List Char} (nonempty : digits ≠ []) (all : ∀ c ∈ digits, isDigit c = true) :
    Denotes ('-' :: digits) (-Digits.value digits)

section Reading

variable {digits : List Char} {result : Int}

private theorem readUp_ok_iff {value : Nat} (inside : InRange value) : readUp value digits = .ok result ↔
    (∀ c ∈ digits, isDigit c = true) ∧ result = Digits.valueFrom value digits ∧ InRange result := by
  induction digits generalizing value with
  | nil =>
    rw [readUp, Digits.valueFrom, Except.ok.injEq]
    constructor
    · rintro rfl
      exact ⟨fun _ member => absurd member List.not_mem_nil, rfl, inside⟩
    · rintro ⟨_, rfl, _⟩
      rfl
  | cons c rest ih =>
    rw [readUp, Digits.valueFrom, List.forall_mem_cons, isDigit]
    cases digit : Digits.digit? c with
    | none => simp
    | some step =>
      have next : (10 * (value : Int) + step) = (10 * value + step : Nat) := by push_cast; rfl
      simp only [Option.isSome_some, true_and, Option.getD_some, next]
      split
      · rename_i stays
        exact ih stays
      · rename_i leaves
        -- Further digits only add, so the whole is as far out of range as the part read so far.
        have grows := Digits.le_valueFrom (10 * value + step) rest
        refine iff_of_false (fun same => by contradiction) ?_
        rintro ⟨_, rfl, back⟩
        unfold InRange at leaves back
        omega

private theorem readDown_ok_iff {value : Nat} (inside : InRange (-value)) :
    readDown (-value) digits = .ok result ↔
    (∀ c ∈ digits, isDigit c = true) ∧ result = -Digits.valueFrom value digits ∧ InRange result := by
  induction digits generalizing value with
  | nil =>
    rw [readDown, Digits.valueFrom, Except.ok.injEq]
    constructor
    · rintro rfl
      exact ⟨fun _ member => absurd member List.not_mem_nil, rfl, inside⟩
    · rintro ⟨_, rfl, _⟩
      rfl
  | cons c rest ih =>
    rw [readDown, Digits.valueFrom, List.forall_mem_cons, isDigit]
    cases digit : Digits.digit? c with
    | none => simp
    | some step =>
      have next : (10 * (-value : Int) - step) = -(10 * value + step : Nat) := by push_cast; ring
      simp only [Option.isSome_some, true_and, Option.getD_some, next]
      split
      · rename_i stays
        exact ih stays
      · rename_i leaves
        have grows := Digits.le_valueFrom (10 * value + step) rest
        refine iff_of_false (fun same => by contradiction) ?_
        rintro ⟨_, rfl, back⟩
        unfold InRange at leaves back
        omega

end Reading

section Signs

variable {text digits : List Char} {value other : Int}

theorem denotes_minus_iff : Denotes ('-' :: digits) value ↔
    digits ≠ [] ∧ (∀ c ∈ digits, isDigit c = true) ∧ value = -Digits.value digits := by
  constructor
  · intro denotes
    cases denotes with
    | unsigned _ all => exact absurd (all '-' List.mem_cons_self) (by decide)
    | negative nonempty all => exact ⟨nonempty, all, rfl⟩
  · rintro ⟨nonempty, all, rfl⟩
    exact .negative nonempty all

theorem denotes_plus_iff : Denotes ('+' :: digits) value ↔
    digits ≠ [] ∧ (∀ c ∈ digits, isDigit c = true) ∧ value = Digits.value digits := by
  constructor
  · intro denotes
    cases denotes with
    | unsigned _ all => exact absurd (all '+' List.mem_cons_self) (by decide)
    | positive nonempty all => exact ⟨nonempty, all, rfl⟩
  · rintro ⟨nonempty, all, rfl⟩
    exact .positive nonempty all

private theorem denotes_unsigned_iff (minus : ∀ rest, text ≠ '-' :: rest)
    (plus : ∀ rest, text ≠ '+' :: rest) :
    Denotes text value ↔
      text ≠ [] ∧ (∀ c ∈ text, isDigit c = true) ∧ value = Digits.value text := by
  constructor
  · intro denotes
    cases denotes with
    | unsigned nonempty all => exact ⟨nonempty, all, rfl⟩
    | positive => exact absurd rfl (plus _)
    | negative => exact absurd rfl (minus _)
  · rintro ⟨nonempty, all, rfl⟩
    exact .unsigned nonempty all

/-- A text denotes at most one integer. -/
theorem Denotes.unique (denotes : Denotes text value) (denotes' : Denotes text other) : value = other := by
  cases denotes with
  | unsigned nonempty all =>
    cases denotes' with
    | unsigned => rfl
    | positive => exact absurd (all '+' List.mem_cons_self) (by decide)
    | negative => exact absurd (all '-' List.mem_cons_self) (by decide)
  | positive nonempty all => exact (denotes_plus_iff.mp denotes').2.2.symm
  | negative nonempty all => exact (denotes_minus_iff.mp denotes').2.2.symm

/-- A text reads if it denotes an integer in range, and reads as that one. -/
theorem read_ok_iff : read text = .ok value ↔ Denotes text value ∧ InRange value := by
  have up (digits : List Char) := @readUp_ok_iff digits value 0 (by decide)
  have down (digits : List Char) := @readDown_ok_iff digits value 0 (by decide)
  unfold read
  split
  · refine iff_of_false (fun same => by contradiction) ?_
    rintro ⟨denotes, _⟩
    cases denotes with
    | unsigned nonempty => exact nonempty rfl
  · refine iff_of_false (fun same => by contradiction) ?_
    rintro ⟨denotes, _⟩
    exact (denotes_minus_iff.mp denotes).1 rfl
  · refine iff_of_false (fun same => by contradiction) ?_
    rintro ⟨denotes, _⟩
    exact (denotes_plus_iff.mp denotes).1 rfl
  · rename_i digits more
    have nonempty : digits ≠ [] := fun none => more (none ▸ rfl)
    rw [denotes_minus_iff, and_iff_right nonempty, and_assoc]
    exact down digits
  · rename_i digits more
    have nonempty : digits ≠ [] := fun none => more (none ▸ rfl)
    rw [denotes_plus_iff, and_iff_right nonempty, and_assoc]
    exact up digits
  · rename_i nonempty _ _ minus plus
    rw [denotes_unsigned_iff minus plus, and_iff_right nonempty, and_assoc]
    exact up text

/-- The written form denotes what was written. -/
theorem denotes_text (value : Int) : Denotes (Integer.text value) value := by
  have nonempty := Digits.ofNat_ne_nil value.natAbs
  have all (c : Char) (member : c ∈ Digits.ofNat value.natAbs) : isDigit c = true :=
    Digits.isDigit_of_mem_ofNat member
  have size := Digits.value_ofNat value.natAbs
  unfold Integer.text
  split
  · exact denotes_minus_iff.mpr ⟨nonempty, all, by omega⟩
  · rename_i notNegative
    have denotes := Denotes.unsigned nonempty all
    rwa [size, Int.natAbs_of_nonneg (Int.not_lt.mp notNegative)] at denotes

theorem read_text {value : Int} (inside : InRange value) : read (Integer.text value) = .ok value :=
  read_ok_iff.mpr ⟨denotes_text value, inside⟩

/-- Integers are written like exponents. -/
private theorem text_eq_exponentText : Integer.text = Binary64.exponentText := rfl

theorem inRange_toInt (value : Int64) : InRange value.toInt := ⟨value.le_toInt, value.toInt_lt⟩

theorem toInt_ofInt {value : Int} (inside : InRange value) : (Int64.ofInt value).toInt = value :=
  Int64.toInt_ofInt_of_le inside.1 inside.2

/-- The written form of an integer in range has at most twenty characters. -/
theorem length_text_le {value : Int} (inside : InRange value) : (Integer.text value).length ≤ 20 := by
  have bound : Nat.pow 2 63 < 10 ^ 19 := by decide
  have size : value.natAbs < 10 ^ 19 := by
    unfold InRange at inside
    omega
  have few := (Digits.length_ofNat_le_iff (by decide)).mpr size
  unfold Integer.text
  split
  · exact Nat.succ_le_succ few
  · exact few.trans (by decide)

theorem ascii_text (value : Int) : ∀ c ∈ Integer.text value, c.toNat < 128 := by
  intro c member
  rw [text_eq_exponentText] at member
  rcases Numeral.character_of_mem_exponentText member with digit | rfl
  · exact Digits.toNat_lt_of_isDigit digit
  · decide

end Signs

end Integer

end OwnedText
