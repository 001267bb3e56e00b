import Mathlib
import OwnedText.Proofs.Decimal.Closest
import OwnedText.Proofs.Decimal.RoundTrip

/-! # The text of a number is the shortest and closest

What makes a numeral short is its significant digits, those between zeros on either side: they alone
decide which decimals it can denote. The significant digits of a written number are the digits of its
shortest decimal. So no numeral with fewer of them rounds to the number, none with as many is nearer to its
exact value, and whether the point is where the digits have it or is moved by an exponent shows how large
the number is.
-/

namespace OwnedText

open Binary64 (valueOf infinity NearestEven)

namespace Digits

/-- The digits between zeros on either side. -/
def significant (digits : List Char) : List Char :=
  (digits.dropWhile (· == '0')).rdropWhile (· == '0')

theorem dropWhile_zeros_append {digits : List Char} (lead : digits.head? ≠ some '0') (count : Nat) :
    (List.replicate count '0' ++ digits).dropWhile (· == '0') = digits := by
  rw [List.dropWhile_append_of_pos (by simp)]
  cases digits with
  | nil => rfl
  | cons first rest =>
    have other : ¬ (first == '0') = true := fun zero => lead (congrArg some (eq_of_beq zero))
    exact List.dropWhile_cons_of_neg other

theorem significant_of_padded {digits : List Char} (nonempty : digits ≠ [])
    (lead : digits.head? ≠ some '0') (last : digits.getLast? ≠ some '0') (leading trailing : Nat) :
    significant (List.replicate leading '0' ++ digits ++ List.replicate trailing '0') = digits := by
  have front : (digits ++ List.replicate trailing '0').head? ≠ some '0' := by
    rwa [List.head?_append_of_ne_nil _ nonempty]
  have back : digits.reverse.head? ≠ some '0' := by rwa [List.head?_reverse]
  rw [significant, List.append_assoc, dropWhile_zeros_append front, List.rdropWhile, List.reverse_append,
    List.reverse_replicate, dropWhile_zeros_append back, List.reverse_reverse]

/-- Zeros in front do not count, and those behind are powers of ten. -/
private theorem exists_value_eq (digits : List Char) :
    ∃ trailing, value digits = value (significant digits) * 10 ^ trailing := by
  have zeros {run : List Char} (all : ∀ c ∈ run, (c == '0') = true) : value run = 0 := by
    rw [List.eq_replicate_of_mem fun c member => eq_of_beq (all c member)]
    exact value_zeros run.length
  have behind : value ((digits.dropWhile (· == '0')).rtakeWhile (· == '0')) = 0 :=
    zeros fun _ member => List.mem_rtakeWhile_imp (p := (· == '0')) member
  have front : value (digits.takeWhile (· == '0')) = 0 :=
    zeros fun _ member => List.mem_takeWhile_imp (p := (· == '0')) member
  refine ⟨((digits.dropWhile (· == '0')).rtakeWhile (· == '0')).length, ?_⟩
  calc
    value digits = value (digits.takeWhile (· == '0') ++ digits.dropWhile (· == '0')) := by
      rw [List.takeWhile_append_dropWhile]
    _ = value (digits.dropWhile (· == '0')) := by
      rw [value_append, front, Nat.zero_mul, Nat.zero_add]
    _ = value (significant digits ++ (digits.dropWhile (· == '0')).rtakeWhile (· == '0')) := by
      rw [significant, List.rdropWhile_append_rtakeWhile]
    _ = _ := by rw [value_append, behind, Nat.add_zero]

end Digits

namespace Numeral

/-- The digits that count, those between zeros on either side. -/
def significant (numeral : Numeral) : List Char := Digits.significant (numeral.whole ++ numeral.fraction)

/-- The point is where the digits have it, and at least one digit stands after it. No zero is needless. -/
structure Fixed (numeral : Numeral) : Prop where
  exponent : numeral.exponent = none
  fraction : numeral.fraction ≠ []
  lead : numeral.whole = ['0'] ∨ numeral.whole.head? ≠ some '0'
  last : numeral.fraction = ['0'] ∨ numeral.fraction.getLast? ≠ some '0'

/-- One digit stands before the point, it is not zero, and an exponent moves the point. There is no point if
no digit follows, and the last one that follows is not zero. -/
structure Scientific (numeral : Numeral) : Prop where
  exponent : numeral.exponent ≠ none
  lead : ∃ first, numeral.whole = [first] ∧ first ≠ '0'
  last : numeral.fraction.getLast? ≠ some '0'

/-- The significant digits are those of a decimal that the numeral denotes. -/
theorem exists_decimal (numeral : Numeral) :
    ∃ decimal : Decimal, decimal.value = numeral.size ∧
      decimal.digits < 10 ^ numeral.significant.length := by
  obtain ⟨trailing, spelled⟩ := Digits.exists_value_eq (numeral.whole ++ numeral.fraction)
  refine ⟨⟨Digits.value numeral.significant,
    trailing + (numeral.exponent.getD 0 - numeral.fraction.length)⟩, ?_, Digits.value_lt _⟩
  rw [Decimal.value, size, spelled, significant, zpow_add₀ (by norm_num), zpow_natCast]
  push_cast
  ring

end Numeral

namespace Binary64

variable {magnitude : Nat}

/-- The positional notation is for this range. -/
private theorem isPlain_iff (positive : magnitude ≠ 0) (finite : magnitude < infinity) :
    isPlain magnitude = true ↔ 1 / 10 ^ 4 ≤ valueOf magnitude ∧ valueOf magnitude < 10 ^ 16 := by
  obtain ⟨lower, upper⟩ := Decimal.order_spec positive finite
  have ten : (1 : ℚ) < 10 := by norm_num
  have least : (1 : ℚ) / 10 ^ 4 = 10 ^ (-4 : Int) := by norm_num
  have most : (10 : ℚ) ^ 16 = 10 ^ (16 : Int) := by norm_num
  rw [isPlain, decide_eq_true_eq, least, most]
  constructor
  · rintro ⟨from_least, to_most⟩
    exact ⟨(zpow_le_zpow_right₀ ten.le (by omega)).trans lower,
      upper.trans_le (zpow_le_zpow_right₀ ten.le to_most)⟩
  · rintro ⟨from_least, to_most⟩
    have small := (zpow_lt_zpow_iff_right₀ ten).mp (from_least.trans_lt upper)
    have large := (zpow_lt_zpow_iff_right₀ ten).mp (lower.trans_lt to_most)
    omega

end Binary64

namespace Numeral

section Notations

variable {numeral : Numeral} {digits : List Char} (lead : digits.head? ≠ some '0')
  (last : digits.getLast? ≠ some '0')
include lead last

theorem scientific (shown : numeral.whole ++ numeral.fraction = digits) (single : numeral.whole.length = 1)
    (moved : numeral.exponent ≠ none) : numeral.Scientific := by
  obtain ⟨first, whole⟩ := List.length_eq_one_iff.mp single
  rw [whole, List.singleton_append] at shown
  refine ⟨moved, ⟨first, whole, ?_⟩, ?_⟩
  · rintro rfl
    exact lead (shown ▸ rfl)
  · intro zero
    apply last
    rw [← shown, List.getLast?_cons, zero]
    rfl

variable (nonempty : digits ≠ [])
include nonempty

theorem Pointed.significant_eq {point : Int} (pointed : Pointed digits point numeral.whole numeral.fraction) :
    numeral.significant = digits := by
  obtain ⟨leading, trailing, padded, _⟩ := pointed.padded
  rw [significant, padded]
  exact Digits.significant_of_padded nonempty lead last leading trailing

/-- Where there are no zeros around the digits, the numeral starts and ends as they do. -/
theorem Pointed.fixed {point : Int} (pointed : Pointed digits point numeral.whole numeral.fraction)
    (unmoved : numeral.exponent = none) : numeral.Fixed := by
  obtain ⟨leading, trailing, padded, _, front, back⟩ := pointed.padded
  refine ⟨unmoved, pointed.back_ne_nil, front.symm.imp_right ?_, back.symm.imp_right ?_⟩
  · rintro rfl
    have same := congrArg List.head? padded
    rw [List.head?_append_of_ne_nil _ pointed.front_ne_nil, List.replicate_zero, List.nil_append,
      List.head?_append_of_ne_nil _ nonempty] at same
    rwa [same]
  · rintro rfl
    have same := congrArg List.getLast? padded
    rw [List.getLast?_append_of_ne_nil _ pointed.back_ne_nil, List.replicate_zero, List.append_nil,
      List.getLast?_append_of_ne_nil _ nonempty] at same
    rwa [same]

theorem significant_eq (shown : numeral.whole ++ numeral.fraction = digits) :
    numeral.significant = digits := by
  have padded := Digits.significant_of_padded nonempty lead last 0 0
  rw [List.replicate_zero, List.nil_append, List.append_nil] at padded
  rw [significant, shown, padded]

end Notations

/-- What is written for a magnitude has the significant digits of its shortest decimal, and the notation is
positional where the magnitude is in the middle range, and scientific elsewhere. -/
theorem Writes.shown {numeral : Numeral} {magnitude : Nat} (writes : numeral.Writes magnitude)
    (positive : magnitude ≠ 0) (finite : magnitude < infinity) :
    numeral.significant = Digits.ofNat (Decimal.shortest magnitude).digits ∧
      (Binary64.isPlain magnitude = true → numeral.Fixed) ∧
        (Binary64.isPlain magnitude ≠ true → numeral.Scientific) := by
  have ends := (Decimal.shortest_digits positive finite).1
  have nonempty := Digits.ofNat_ne_nil (Decimal.shortest magnitude).digits
  have some_digit : 0 < (Decimal.shortest magnitude).digits := by omega
  have lead := Digits.head?_ofNat_ne some_digit
  have last := Digits.getLast?_ofNat_ne ends
  by_cases plain : Binary64.isPlain magnitude = true
  · obtain ⟨unmoved, pointed⟩ := writes.plain plain
    exact ⟨pointed.significant_eq lead last nonempty, fun _ => pointed.fixed lead last nonempty unmoved,
      fun other => absurd plain other⟩
  · obtain ⟨moved, shown, single⟩ := writes.moved plain
    exact ⟨significant_eq lead last nonempty shown, fun other => absurd other plain,
      fun _ => scientific lead last shown single (by rw [moved]; exact Option.some_ne_none _)⟩

end Numeral

/-- A size with a sign. -/
def signed (negative : Bool) (size : ℚ) : ℚ := if negative then -size else size

private theorem abs_signed (negative : Bool) (size : ℚ) : |signed negative size| = |size| := by
  cases negative
  · rfl
  · exact abs_neg size

private theorem abs_signed_sub (negative : Bool) (size other : ℚ) :
    |signed negative size - signed negative other| = |size - other| := by
  cases negative
  · rfl
  · have mirrored : -size - -other = -(size - other) := by ring
    exact (congrArg abs mirrored).trans (abs_neg _)

/-- The rational that a numeral denotes. -/
def Numeral.value (numeral : Numeral) : ℚ := signed numeral.negative numeral.size

/-- The rational that a finite number is. -/
def Binary64.exact (value : Binary64) : ℚ := signed value.isNegative (valueOf value.magnitude)

/-- With one sign, distances are those of the sizes. -/
theorem Numeral.RoundsTo.abs_value_sub {numeral : Numeral} {value : Binary64}
    (rounds : numeral.RoundsTo value) :
    |numeral.value - value.exact| = |numeral.size - valueOf value.magnitude| := by
  rw [Numeral.value, Binary64.exact, rounds.1, abs_signed_sub]

private theorem Binary64.abs_exact (value : Binary64) : |value.exact| = valueOf value.magnitude := by
  rw [Binary64.exact, abs_signed, abs_of_nonneg (Binary64.valueOf_nonneg _)]

/-- The bytes of a number are a numeral with no more significant digits than seventeen. No numeral with fewer
of them rounds to the number, and none that has as many and rounds to it is nearer to its exact value. The
notation is positional where the number is not too small and not too large, and scientific elsewhere. -/
structure ShortestText (value : Binary64) (numeral : Numeral) : Prop where
  text : CallerBuffer.asciiBytes numeral.text = CallerBuffer.composed (.float value)
  rounds : numeral.RoundsTo value
  few : numeral.significant.length ≤ 17
  shortest : ∀ other : Numeral, other.significant.length < numeral.significant.length →
    ¬ other.RoundsTo value
  closest : ∀ other : Numeral, other.significant.length = numeral.significant.length →
    other.RoundsTo value → |numeral.value - value.exact| ≤ |other.value - value.exact|
  fixed_iff : numeral.Fixed ↔ 1 / 10 ^ 4 ≤ |value.exact| ∧ |value.exact| < 10 ^ 16
  scientific : ¬ (1 / 10 ^ 4 ≤ |value.exact| ∧ |value.exact| < 10 ^ 16) → numeral.Scientific

/-- Every finite number other than zero has a shortest text. -/
theorem exists_shortestText {value : Binary64} (finite : value.isFinite = true)
    (nonzero : value.magnitude ≠ 0) : ∃ numeral, ShortestText value numeral := by
  have bounded : value.magnitude < infinity := of_decide_eq_true finite
  obtain ⟨numeral, sign, writes⟩ := Numeral.exists_writes value.isNegative nonzero
  obtain ⟨significant, fixed, scientific⟩ := writes.shown nonzero bounded
  obtain ⟨rounds, shortest, closest⟩ := Decimal.optimal_shortest nonzero bounded
  have rounds_self : numeral.RoundsTo value := ⟨sign.symm, writes.size ▸ rounds⟩
  have range := Binary64.isPlain_iff nonzero bounded
  rw [← value.abs_exact] at range
  refine ⟨numeral, ?_, rounds_self, ?_, ?_, ?_, ?_, ?_⟩
  · rw [CallerBuffer.composed_float, Numeral.text, sign, writes.body, Binary64.text_of_isFinite finite]
  · rw [significant]
    exact (Digits.length_ofNat_le_iff (by decide)).mpr (Decimal.shortest_digits nonzero bounded).2
  · intro other fewer rounds'
    obtain ⟨decimal, same, few⟩ := other.exists_decimal
    have enough := shortest decimal (same ▸ rounds'.2) _ few
    rw [significant] at fewer
    omega
  · intro other as_many rounds'
    obtain ⟨decimal, same, few⟩ := other.exists_decimal
    rw [as_many, significant] at few
    have near := closest decimal (same ▸ rounds'.2) few
    rwa [rounds_self.abs_value_sub, rounds'.abs_value_sub, writes.size, ← same]
  · rw [← range]
    refine ⟨?_, fixed⟩
    intro shown
    by_contra other
    exact (scientific other).exponent shown.exponent
  · intro outside
    exact scientific fun plain => outside (range.mp plain)

/-- The smallest normal number, with neighbours as far below as above although it is a power of two, takes
seventeen digits. -/
theorem exists_shortestText_of_normal :
    ∃ value : Binary64, value.isFinite = true ∧ value.magnitude = Binary64.binade ∧
      CallerBuffer.composed (.float value) = CallerBuffer.asciiBytes "2.2250738585072014e-308".toList ∧
      ∃ numeral, ShortestText value numeral := by
  refine ⟨⟨0x0010000000000000⟩, by decide +kernel, by decide +kernel, by decide +kernel, ?_⟩
  exact exists_shortestText (by decide +kernel) (by decide +kernel)

end OwnedText
