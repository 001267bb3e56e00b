import Mathlib
import OwnedText.Proofs.Decimal.Shortest

/-! # No decimal is shorter, and none as short is nearer

On a grid the neighbours of a value are nearer than all other points, and as the rationals that round to
one magnitude have no gaps, a neighbour rounds to it if any point on its side does. So a grid on which no
neighbour is accepted has no point that rounds to the magnitude at all. A decimal with few digits is a
point on the grid of so many digits, or it lies below the power of ten at which that grid begins to reach
the value, and then that power is nearer.
-/

namespace OwnedText.Decimal

open Binary64 (valueOf infinity NearestEven)

section Grid

variable {magnitude : Nat} {exponent : Int} {point : Nat}

theorem le_below_value (before : point ≤ below magnitude exponent) :
    (point : ℚ) * 10 ^ exponent ≤ below magnitude exponent * 10 ^ exponent :=
  mul_le_mul_of_nonneg_right (Nat.cast_le.mpr before) (ten_zpow_pos exponent).le

theorem succ_below_value_le (behind : below magnitude exponent < point) :
    ((below magnitude exponent + 1 : Nat) : ℚ) * 10 ^ exponent ≤ point * 10 ^ exponent :=
  mul_le_mul_of_nonneg_right (Nat.cast_le.mpr behind) (ten_zpow_pos exponent).le

/-- Of all points up to the value the last one is nearest to it. -/
private theorem below_nearest (before : point ≤ below magnitude exponent) :
    |(below magnitude exponent : ℚ) * 10 ^ exponent - valueOf magnitude| ≤
      |(point : ℚ) * 10 ^ exponent - valueOf magnitude| := by
  have order := le_below_value before
  have lower := below_le magnitude exponent
  rw [abs_of_nonpos (by linarith), abs_of_nonpos (by linarith)]
  linarith

/-- Of all points behind the value the first one is nearest to it. -/
private theorem succ_below_nearest (behind : below magnitude exponent < point) :
    |((below magnitude exponent + 1 : Nat) : ℚ) * 10 ^ exponent - valueOf magnitude| ≤
      |(point : ℚ) * 10 ^ exponent - valueOf magnitude| := by
  have order := succ_below_value_le behind
  have upper := lt_succ_below magnitude exponent
  rw [← Nat.cast_add_one] at upper
  rw [abs_of_nonneg (by linarith), abs_of_nonneg (by linarith)]
  linarith

private theorem one_le_abs_sub {point other : Nat} (apart : point ≠ other) :
    (1 : ℚ) ≤ |(point : ℚ) - other| := by
  have distinct : (point : Int) - other ≠ 0 := by omega
  exact_mod_cast Int.one_le_abs distinct

/-- Other points are a whole step away from the nearer neighbour, which is off by half a step at most. -/
theorem nearer_nearest (magnitude : Nat) (exponent : Int) (point : Nat) :
    |(nearer magnitude exponent : ℚ) * 10 ^ exponent - valueOf magnitude| ≤
      |(point : ℚ) * 10 ^ exponent - valueOf magnitude| := by
  rcases eq_or_ne point (nearer magnitude exponent) with same | apart
  · rw [same]
  · have step := ten_zpow_pos exponent
    have close := nearer_close magnitude exponent
    have steps : 10 ^ exponent ≤
        |(point : ℚ) * 10 ^ exponent - nearer magnitude exponent * 10 ^ exponent| := by
      rw [← sub_mul, abs_mul, abs_of_pos step]
      exact le_mul_of_one_le_left step.le (one_le_abs_sub apart)
    have around := abs_sub_le ((point : ℚ) * 10 ^ exponent) (valueOf magnitude)
      (nearer magnitude exponent * 10 ^ exponent)
    rw [abs_sub_comm (valueOf magnitude)] at around
    linarith

variable (finite : magnitude < infinity)
include finite

/-- If any point rounds to the magnitude, one that is at least as near is accepted. -/
theorem exists_accepted? (rounds : NearestEven (point * 10 ^ exponent) magnitude) :
    ∃ digits, accepted? magnitude exponent = some digits ∧
      |(digits : ℚ) * 10 ^ exponent - valueOf magnitude| ≤
        |(point : ℚ) * 10 ^ exponent - valueOf magnitude| := by
  have centre := Binary64.nearestEven_valueOf finite.le
  -- The neighbour on the side of the point lies between the point and the value.
  have side :
      point ≤ below magnitude exponent ∧ RoundsTo ⟨below magnitude exponent, exponent⟩ magnitude ∨
        below magnitude exponent < point ∧
          RoundsTo ⟨below magnitude exponent + 1, exponent⟩ magnitude := by
    rw [roundsTo_iff finite, roundsTo_iff finite, value, value]
    rcases Nat.lt_or_ge (below magnitude exponent) point with behind | before
    · have upper := (lt_succ_below magnitude exponent).le
      rw [← Nat.cast_add_one] at upper
      exact .inr ⟨behind, centre.of_le_of_le rounds upper (succ_below_value_le behind)⟩
    · exact .inl ⟨before, rounds.of_le_of_le centre (le_below_value before) (below_le magnitude exponent)⟩
  have nearest := nearer_nearest magnitude exponent point
  simp only [accepted?]
  split_ifs with lower upper upper
  · exact ⟨_, rfl, nearest⟩
  · obtain ⟨before, _⟩ | ⟨_, reached⟩ := side
    · exact ⟨_, rfl, below_nearest before⟩
    · exact absurd reached upper
  · obtain ⟨_, reached⟩ | ⟨behind, _⟩ := side
    · exact absurd reached lower
    · exact ⟨_, rfl, succ_below_nearest behind⟩
  · obtain ⟨_, reached⟩ | ⟨_, reached⟩ := side
    · exact absurd reached lower
    · exact absurd reached upper

end Grid

variable {magnitude : Nat} (positive : magnitude ≠ 0)
include positive

/-- Without any digit there is only zero, which rounds to zero. -/
theorem pos_of_nearestEven {other : Decimal} {count : Nat} (few : other.digits < 10 ^ count)
    (rounds : NearestEven other.value magnitude) : 0 < count := by
  rcases Nat.eq_zero_or_pos count with rfl | some_digit
  · have none : other.digits = 0 := by simpa using few
    rw [value, none, Nat.cast_zero, zero_mul] at rounds
    exact absurd (rounds.unique Binary64.nearestEven_zero) positive
  · exact some_digit

variable (finite : magnitude < infinity)
include finite

/-- A decimal with few digits that rounds to the magnitude has a stand-in on the grid of so many digits,
which does so too and is at least as near. -/
theorem exists_on_grid {other : Decimal} {count : Nat} (few : other.digits < 10 ^ count)
    (rounds : NearestEven other.value magnitude) :
    ∃ point : Nat, NearestEven (point * 10 ^ (order magnitude - count)) magnitude ∧
      |(point : ℚ) * 10 ^ (order magnitude - count) - valueOf magnitude| ≤
        |other.value - valueOf magnitude| := by
  have some_digit := pos_of_nearestEven positive few rounds
  obtain ⟨reached, _⟩ := order_spec positive finite
  have ten : (10 : ℚ) ≠ 0 := by norm_num
  rcases lt_or_ge other.value (10 ^ (order magnitude - 1)) with small | large
  · have exponent : ((count - 1 : Nat) : Int) + (order magnitude - count) = order magnitude - 1 := by
      rw [Nat.cast_pred some_digit]
      ring
    have first : ((10 ^ (count - 1) : Nat) : ℚ) * 10 ^ (order magnitude - count) =
        10 ^ (order magnitude - 1) := by
      rw [Nat.cast_pow, Nat.cast_ofNat, ← zpow_natCast, ← zpow_add₀ ten, exponent]
    refine ⟨10 ^ (count - 1), ?_, ?_⟩
    · rw [first]
      exact rounds.of_le_of_le (Binary64.nearestEven_valueOf finite.le) small.le reached
    · rw [first, abs_of_nonpos (by linarith), abs_of_nonpos (by linarith)]
      linarith
  · have coarse : order magnitude - count ≤ other.exponent := by
      have digits : (other.digits : ℚ) < 10 ^ (count : Int) := by
        rw [zpow_natCast]
        exact_mod_cast few
      have size : other.value < 10 ^ (count + other.exponent) := by
        rw [value, zpow_add₀ ten]
        exact mul_lt_mul_of_pos_right digits (ten_zpow_pos other.exponent)
      have powers := (zpow_lt_zpow_iff_right₀ (by norm_num : (1 : ℚ) < 10)).mp (large.trans_lt size)
      omega
    obtain ⟨shift, moved⟩ := Int.le.dest coarse
    have same : ((other.digits * 10 ^ shift : Nat) : ℚ) * 10 ^ (order magnitude - count) = other.value := by
      rw [value, ← moved, zpow_add₀ ten, zpow_natCast]
      push_cast
      ring
    exact ⟨other.digits * 10 ^ shift, same ▸ rounds, by rw [same]⟩

/-- No decimal of fewer digits rounds to the magnitude, and none of so many digits that does is nearer to
the value. -/
structure Optimal (decimal : Decimal) (magnitude count : Nat) : Prop where
  rounds : NearestEven decimal.value magnitude
  shortest : ∀ other : Decimal, NearestEven other.value magnitude →
    ∀ fewer, other.digits < 10 ^ fewer → count ≤ fewer
  closest : ∀ other : Decimal, NearestEven other.value magnitude → other.digits < 10 ^ count →
    |decimal.value - valueOf magnitude| ≤ |other.value - valueOf magnitude|

/-- The search ends on the first grid that has a point for the magnitude, with the nearest one. -/
theorem optimal_shortest :
    Optimal (shortest magnitude) magnitude (Digits.ofNat (shortest magnitude).digits).length := by
  obtain ⟨grid, digits, short, found, rounds, lower, upper⟩ := exists_shortest positive finite
  have few : (Digits.ofNat (shortest magnitude).digits).length ≤ grid := by
    have some_digit : 0 < digits := (Nat.pow_pos (by decide)).trans_le lower
    rw [short, Digits.length_ofNat_le_iff found.first_le]
    exact strip_digits_lt _ some_digit found.first_le upper
  have same : (shortest magnitude).value = digits * 10 ^ (order magnitude - grid) := by
    rw [short, strip_value]
  refine ⟨same ▸ rounds, ?_, ?_⟩
  · intro other rounds' fewer small
    by_contra less
    obtain ⟨point, rounds_point, _⟩ := exists_on_grid positive finite small rounds'
    obtain ⟨_, accepted, _⟩ := exists_accepted? finite rounds_point
    have rejected := found.coarser fewer (pos_of_nearestEven positive small rounds') (by omega)
    rw [accepted] at rejected
    contradiction
  · intro other rounds' small
    have small' := small.trans_le (Nat.pow_le_pow_right (by decide) few)
    obtain ⟨point, rounds_point, near⟩ := exists_on_grid positive finite small' rounds'
    rw [same]
    refine le_trans ?_ near
    rcases found.chosen with accepted | ⟨_, chosen⟩
    · obtain ⟨digits', accepted', nearest⟩ := exists_accepted? finite rounds_point
      obtain rfl := Option.some.inj (accepted.symm.trans accepted')
      exact nearest
    · rw [chosen]
      exact nearer_nearest magnitude _ point

end OwnedText.Decimal
