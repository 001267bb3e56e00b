import Mathlib
import OwnedText.Decimal.Digits

/-! # Digits and the numbers they denote

The digits of a number denote that number, and there are as many of them as its size calls for. The
value of a run of digits splits at any place of the run, and a run without a leading zero is the one run
of its kind that denotes its value.
-/

namespace OwnedText.Digits

@[simp] theorem digit?_ofDigit {value : Nat} (small : value < 10) : digit? (ofDigit value) = some value := by
  interval_cases value <;> rfl

@[simp] theorem isDigit_ofDigit {value : Nat} (small : value < 10) : isDigit (ofDigit value) = true := by
  rw [isDigit, digit?_ofDigit small]
  rfl

theorem toNat_lt_of_isDigit {c : Char} (digit : isDigit c = true) : c.toNat < 128 := by
  unfold isDigit digit? at digit
  split at digit
  · omega
  · contradiction

theorem ofNat_of_lt {value : Nat} (small : value < 10) : ofNat value = [ofDigit value] := by
  rw [ofNat, if_pos small]

theorem ofNat_zero : ofNat 0 = ['0'] := ofNat_of_lt (by decide)

theorem ofNat_of_le {value : Nat} (large : 10 ≤ value) :
    ofNat value = ofNat (value / 10) ++ [ofDigit (value % 10)] := by
  rw [ofNat, if_neg (Nat.not_lt.mpr large)]

theorem ofNat_ne_nil (value : Nat) : ofNat value ≠ [] := by
  rcases Nat.lt_or_ge value 10 with small | large
  · simp [ofNat_of_lt small]
  · simp [ofNat_of_le large]

theorem isDigit_of_mem_ofNat {value : Nat} {c : Char} (member : c ∈ ofNat value) : isDigit c = true := by
  induction value using ofNat.induct with
  | case1 value small =>
    rw [ofNat_of_lt small, List.mem_singleton] at member
    exact member ▸ isDigit_ofDigit small
  | case2 value large ih =>
    rw [ofNat_of_le (Nat.not_lt.mp large), List.mem_append, List.mem_singleton] at member
    rcases member with front | rfl
    · exact ih front
    · exact isDigit_ofDigit (Nat.mod_lt _ (by decide))

/-- A number has at most so many digits if it is below that power of ten. -/
theorem length_ofNat_le_iff {value count : Nat} (positive : 0 < count) :
    (ofNat value).length ≤ count ↔ value < 10 ^ count := by
  induction value using ofNat.induct generalizing count with
  | case1 value small =>
    have power : 10 ^ 1 ≤ 10 ^ count := Nat.pow_le_pow_right (by decide) positive
    rw [ofNat_of_lt small, List.length_singleton]
    omega
  | case2 value large ih =>
    obtain ⟨count, rfl⟩ := Nat.exists_eq_add_one_of_ne_zero positive.ne'
    rw [ofNat_of_le (Nat.not_lt.mp large), List.length_append, List.length_singleton,
      Nat.add_le_add_iff_right, Nat.pow_succ, ← Nat.div_lt_iff_lt_mul (by decide)]
    rcases Nat.eq_zero_or_pos count with rfl | more
    · have front := List.length_pos_iff.mpr (ofNat_ne_nil (value / 10))
      omega
    · exact ih more

theorem valueFrom_eq (before : Nat) (digits : List Char) :
    valueFrom before digits = before * 10 ^ digits.length + value digits := by
  induction digits generalizing before with
  | nil => simp [value, valueFrom]
  | cons c rest ih =>
    rw [value, valueFrom, valueFrom, ih, ih (10 * 0 + _), List.length_cons, Nat.pow_succ]
    ring

private theorem valueFrom_append (before : Nat) (front rest : List Char) :
    valueFrom before (front ++ rest) = valueFrom (valueFrom before front) rest := by
  induction front generalizing before with
  | nil => rfl
  | cons c front ih => exact ih _

theorem value_append (front rest : List Char) :
    value (front ++ rest) = value front * 10 ^ rest.length + value rest := by
  rw [value, valueFrom_append, valueFrom_eq]
  rfl

/-- So many digits denote a number below that power of ten. -/
theorem value_lt (digits : List Char) : value digits < 10 ^ digits.length := by
  induction digits with
  | nil => exact Nat.one_pos
  | cons c rest ih =>
    have small : (digit? c).getD 0 < 10 := by
      unfold digit?
      split
      · rw [Option.getD_some]
        omega
      · decide
    have front : 10 * 0 + (digit? c).getD 0 ≤ 9 := by omega
    have grows := Nat.mul_le_mul_right (10 ^ rest.length) front
    rw [value, valueFrom, valueFrom_eq, List.length_cons, Nat.pow_succ]
    omega

@[simp] theorem value_zeros (count : Nat) : value (List.replicate count '0') = 0 := by
  induction count with
  | zero => rfl
  | succ count ih => exact ih

@[simp] theorem value_singleton {small : Nat} (below : small < 10) : value [ofDigit small] = small := by
  rw [value, valueFrom, valueFrom, digit?_ofDigit below]
  exact Nat.zero_add small

/-- The digits of a number denote it. -/
@[simp] theorem value_ofNat (number : Nat) : value (ofNat number) = number := by
  induction number using ofNat.induct with
  | case1 number small => rw [ofNat_of_lt small, value_singleton small]
  | case2 number large ih =>
    rw [ofNat_of_le (Nat.not_lt.mp large), value_append, ih, value_singleton (Nat.mod_lt _ (by decide)),
      List.length_singleton]
    omega

theorem ofNat_injective : Function.Injective ofNat :=
  Function.LeftInverse.injective value_ofNat

theorem digitChar_eq {value : Nat} (small : value < 10) : value.digitChar = ofDigit value := by
  interval_cases value <;> rfl

/-- The digits are those that the standard library writes. -/
private theorem toDigits_eq (value : Nat) : Nat.toDigits 10 value = ofNat value := by
  induction value using ofNat.induct with
  | case1 value small => rw [Nat.toDigits_of_lt_base small, ofNat_of_lt small, digitChar_eq small]
  | case2 value large ih =>
    rw [Nat.toDigits_of_base_le (by decide) (Nat.not_lt.mp large), ih, ofNat_of_le (Nat.not_lt.mp large),
      digitChar_eq (Nat.mod_lt _ (by decide))]

theorem toList_toString (value : Nat) : (toString value).toList = ofNat value :=
  Nat.toList_repr.trans (toDigits_eq value)

/-- A digit is spelled by its value. -/
theorem ofDigit_of_digit? {c : Char} {value : Nat} (digit : digit? c = some value) :
    value < 10 ∧ ofDigit value = c := by
  unfold digit? at digit
  split at digit
  · rename_i range
    obtain rfl := Option.some.inj digit
    have code : 48 + (c.toNat - 48) = c.toNat := by omega
    exact ⟨by omega, by rw [ofDigit, code, Char.ofNat_toNat]⟩
  · contradiction

private theorem value_concat (front : List Char) {c : Char} {small : Nat} (digit : digit? c = some small) :
    value (front ++ [c]) = 10 * value front + small := by
  obtain ⟨below, rfl⟩ := ofDigit_of_digit? digit
  rw [value_append, value_singleton below, List.length_singleton, Nat.pow_one, Nat.mul_comm]

/-- Digits behind one that is not zero denote a positive number. -/
theorem value_pos {digits : List Char} (nonempty : digits ≠ []) (all : ∀ c ∈ digits, isDigit c = true)
    (lead : digits.head? ≠ some '0') : 0 < value digits := by
  obtain ⟨first, rest, rfl⟩ := List.exists_cons_of_ne_nil nonempty
  obtain ⟨small, digit⟩ := Option.isSome_iff_exists.mp (all first List.mem_cons_self)
  obtain ⟨below, spelled⟩ := ofDigit_of_digit? digit
  have positive : small ≠ 0 := by
    rintro rfl
    exact lead (congrArg some spelled.symm)
  have grows := Nat.le_mul_of_pos_right small (Nat.pow_pos (n := rest.length) (by decide : 0 < 10))
  rw [← List.singleton_append, value_append, ← spelled, value_singleton below]
  omega

/-- Digits without a leading zero are those of the number that they denote. -/
theorem ofNat_value {digits : List Char} (nonempty : digits ≠ []) (all : ∀ c ∈ digits, isDigit c = true)
    (lead : digits.head? ≠ some '0') : ofNat (value digits) = digits := by
  induction digits using List.reverseRecOn with
  | nil => contradiction
  | append_singleton front c ih =>
    obtain ⟨small, digit⟩ := Option.isSome_iff_exists.mp (all c (List.mem_append_right _ List.mem_cons_self))
    obtain ⟨below, spelled⟩ := ofDigit_of_digit? digit
    rw [value_concat front digit]
    rcases eq_or_ne front [] with rfl | longer
    · have single : 10 * value [] + small = small := Nat.zero_add small
      rw [single, ofNat_of_lt below, spelled, List.nil_append]
    · have front_all (c : Char) (member : c ∈ front) := all c (List.mem_append_left _ member)
      rw [List.head?_append_of_ne_nil _ longer] at lead
      have positive := value_pos longer front_all lead
      have quotient : (10 * value front + small) / 10 = value front := by omega
      have remainder : (10 * value front + small) % 10 = small := by omega
      rw [ofNat_of_le (by omega), quotient, remainder, ih longer front_all lead, spelled]

theorem ofDigit_ne_zero {value : Nat} (positive : value ≠ 0) (small : value < 10) : ofDigit value ≠ '0' := by
  intro zero
  have digit := digit?_ofDigit small
  rw [zero] at digit
  exact positive (Option.some.inj digit).symm

/-- The digits of a positive number start with another one than zero. -/
theorem head?_ofNat_ne {number : Nat} (positive : 0 < number) : (ofNat number).head? ≠ some '0' := by
  induction number using ofNat.induct with
  | case1 number small =>
    rw [ofNat_of_lt small, List.head?_cons]
    exact fun zero => ofDigit_ne_zero positive.ne' small (Option.some.inj zero)
  | case2 number large ih =>
    rw [ofNat_of_le (Nat.not_lt.mp large), List.head?_append_of_ne_nil _ (ofNat_ne_nil _)]
    exact ih (by omega)

private theorem getLast?_ofNat (number : Nat) : (ofNat number).getLast? = some (ofDigit (number % 10)) := by
  rcases Nat.lt_or_ge number 10 with small | large
  · rw [ofNat_of_lt small, Nat.mod_eq_of_lt small, List.getLast?_singleton]
  · rw [ofNat_of_le large, List.getLast?_concat]

/-- The digits of a number end with a zero only if ten divides it. -/
theorem getLast?_ofNat_ne {number : Nat} (ends : number % 10 ≠ 0) : (ofNat number).getLast? ≠ some '0' := by
  rw [getLast?_ofNat]
  exact fun zero => ofDigit_ne_zero ends (Nat.mod_lt _ (by decide)) (Option.some.inj zero)

end OwnedText.Digits
