import Mathlib
import OwnedText.Decimal.Binary64

/-! # The values of magnitudes

Neighbouring magnitudes lie a power of two apart that depends only on the exponent they share, so values
grow with magnitudes, and a value is at most 2⁵³ times as large as its distance to the value before it.
That ratio is all that bounds on decimals need to know of the format.
-/

namespace OwnedText.Binary64

theorem binade_pos : 0 < binade := by decide

/-- A sign and a magnitude make up the whole pattern. -/
theorem toNat_bits (value : Binary64) :
    value.bits.toNat = (if value.isNegative then signBit else 0) + value.magnitude := by
  have bound : value.bits.toNat < signBit + signBit := value.bits.toNat_lt
  unfold isNegative magnitude
  by_cases negative : signBit ≤ value.bits.toNat
  · rw [decide_eq_true negative, if_pos rfl, Nat.mod_eq_sub_mod negative, Nat.mod_eq_of_lt (by omega)]
    omega
  · rw [decide_eq_false negative, Nat.mod_eq_of_lt (by omega)]
    simp

theorem eq_of_parts {value other : Binary64} (sign : value.isNegative = other.isNegative)
    (magnitude : value.magnitude = other.magnitude) : value = other := by
  have same : value.bits.toNat = other.bits.toNat := by
    rw [toNat_bits, toNat_bits, sign, magnitude]
  cases value
  cases other
  exact congrArg Binary64.mk (UInt64.toNat_inj.mp same)

/-- A magnitude is subnormal, or it has an exponent and a fraction. -/
theorem subnormal_or_normal (magnitude : Nat) :
    magnitude < binade ∨
      ∃ exponent fraction, fraction < binade ∧ magnitude = binade * (exponent + 1) + fraction := by
  rcases Nat.lt_or_ge magnitude binade with subnormal | normal
  · exact .inl subnormal
  · have exponent : magnitude / binade - 1 + 1 = magnitude / binade :=
      Nat.sub_add_cancel ((Nat.le_div_iff_mul_le binade_pos).mpr (by omega))
    refine .inr ⟨magnitude / binade - 1, magnitude % binade, Nat.mod_lt _ binade_pos, ?_⟩
    rw [exponent, Nat.div_add_mod]

theorem units_of_lt {magnitude : Nat} (subnormal : magnitude < binade) : units magnitude = magnitude :=
  if_pos subnormal

theorem units_normal (exponent : Nat) {fraction : Nat} (inside : fraction < binade) :
    units (binade * (exponent + 1) + fraction) = (binade + fraction) * Nat.pow 2 exponent := by
  have normal : ¬ binade * (exponent + 1) + fraction < binade := by
    rw [Nat.mul_succ]
    omega
  rw [units, if_neg normal, Nat.mul_add_mod, Nat.mod_eq_of_lt inside, Nat.mul_add_div binade_pos,
    Nat.div_eq_of_lt inside]
  rfl

/-- How far a magnitude and the one after it lie apart, in units. -/
def spacing (magnitude : Nat) : Nat := Nat.pow 2 (magnitude / binade - 1)

private theorem spacing_pos (magnitude : Nat) : 0 < spacing magnitude := Nat.pow_pos (by decide)

theorem spacing_of_lt {magnitude : Nat} (subnormal : magnitude < binade) : spacing magnitude = 1 := by
  rw [spacing, Nat.div_eq_of_lt subnormal]

theorem spacing_normal (exponent : Nat) {fraction : Nat} (inside : fraction < binade) :
    spacing (binade * (exponent + 1) + fraction) = Nat.pow 2 exponent := by
  rw [spacing, Nat.mul_add_div binade_pos, Nat.div_eq_of_lt inside]
  rfl

/-- The last magnitude of an exponent is followed by the first one of the next. -/
theorem units_succ (magnitude : Nat) : units (magnitude + 1) = units magnitude + spacing magnitude := by
  rcases subnormal_or_normal magnitude with subnormal | ⟨exponent, fraction, inside, rfl⟩
  · rw [units_of_lt subnormal, spacing_of_lt subnormal]
    rcases Nat.lt_or_ge (magnitude + 1) binade with smaller | last
    · rw [units_of_lt smaller]
    · have first : magnitude + 1 = binade * (0 + 1) + 0 := by omega
      rw [first, units_normal 0 binade_pos, Nat.pow_eq]
      omega
  · rw [units_normal exponent inside, spacing_normal exponent inside]
    rcases Nat.lt_or_ge (fraction + 1) binade with smaller | last
    · rw [Nat.add_assoc, units_normal exponent smaller]
      ring
    · have full : fraction + 1 = binade := by omega
      have first : binade * (exponent + 1) + fraction + 1 = binade * (exponent + 1 + 1) + 0 := by
        rw [Nat.mul_succ binade (exponent + 1)]
        omega
      rw [first, units_normal (exponent + 1) binade_pos, ← full]
      simp only [Nat.pow_eq, Nat.pow_succ]
      ring

theorem units_strictMono : StrictMono units :=
  strictMono_nat_of_lt_succ fun magnitude => by
    have apart := spacing_pos magnitude
    rw [units_succ]
    omega

/-- The significand of a value has 53 bits. -/
private theorem units_succ_le (magnitude : Nat) :
    units (magnitude + 1) ≤ Nat.pow 2 53 * spacing magnitude := by
  have twice : Nat.pow 2 53 = binade + binade := by decide
  rw [units_succ, twice]
  rcases subnormal_or_normal magnitude with subnormal | ⟨exponent, fraction, inside, rfl⟩
  · rw [units_of_lt subnormal, spacing_of_lt subnormal]
    omega
  · rw [units_normal exponent inside, spacing_normal exponent inside, ← Nat.succ_mul]
    exact Nat.mul_le_mul_right _ (by omega)

/-- The value of a magnitude; the one that stands for infinity has the value that the pattern continues
to. -/
def valueOf (magnitude : Nat) : ℚ := units magnitude / unitsPerOne

theorem unitsPerOne_pos : (0 : ℚ) < unitsPerOne := by
  have positive (bits : Nat) : (0 : ℚ) < (Nat.pow 2 bits : Nat) :=
    Nat.cast_pos.mpr (Nat.pow_pos (by decide))
  unfold unitsPerOne
  apply positive

@[simp] theorem valueOf_zero : valueOf 0 = 0 := by
  rw [valueOf, units_of_lt binade_pos, Nat.cast_zero, zero_div]

theorem valueOf_strictMono : StrictMono valueOf := by
  intro magnitude other less
  exact div_lt_div_of_pos_right (Nat.cast_lt.mpr (units_strictMono less)) unitsPerOne_pos

theorem valueOf_nonneg (magnitude : Nat) : 0 ≤ valueOf magnitude :=
  div_nonneg (Nat.cast_nonneg _) unitsPerOne_pos.le

theorem valueOf_succ_le (magnitude : Nat) :
    valueOf (magnitude + 1) ≤ 2 ^ 53 * (valueOf (magnitude + 1) - valueOf magnitude) := by
  have bound : (units (magnitude + 1) : ℚ) ≤ 2 ^ 53 * spacing magnitude := by
    exact_mod_cast units_succ_le magnitude
  have apart : (units (magnitude + 1) : ℚ) - units magnitude = spacing magnitude := by
    rw [units_succ]
    push_cast
    ring
  rw [valueOf, valueOf, ← sub_div, apart, ← mul_div_assoc]
  exact div_le_div_of_nonneg_right bound unitsPerOne_pos.le

end OwnedText.Binary64
