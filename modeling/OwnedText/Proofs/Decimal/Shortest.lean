import Mathlib
import OwnedText.Decimal.Shortest
import OwnedText.Proofs.Decimal.Digits
import OwnedText.Proofs.Decimal.Rounding

/-! # What the search for a short decimal finds

A search ends on some grid, after every coarser one was tried in vain, with a neighbour of the value on
that grid. Either the neighbour was seen to round to the magnitude, or the grid is the last one. There
the nearer neighbour is off by half a step at most, and seventeen digits make a step small enough that
it cannot leave the magnitude: the significand has 53 bits, and 2⁵³ is less than 10¹⁶.
-/

namespace OwnedText

namespace Decimal

open Binary64 (units unitsPerOne valueOf infinity NearestEven)

/-- The rational that a decimal stands for. -/
def value (decimal : Decimal) : ℚ := decimal.digits * 10 ^ decimal.exponent

/-- One of the two natural powers is one. -/
theorem zpow_eq_div (exponent : Int) :
    (10 : ℚ) ^ exponent = (Nat.pow 10 exponent.toNat : Nat) / (Nat.pow 10 (-exponent).toNat : Nat) := by
  simp only [Nat.pow_eq, Nat.cast_pow, Nat.cast_ofNat]
  rcases Int.le_total 0 exponent with positive | negative
  · obtain ⟨size, rfl⟩ := Int.eq_ofNat_of_zero_le positive
    simp
  · obtain ⟨size, rfl⟩ := Int.exists_eq_neg_ofNat negative
    simp

theorem value_eq_div (decimal : Decimal) :
    decimal.value = (decimal.numerator : ℚ) / decimal.denominator := by
  rw [value, zpow_eq_div, numerator, denominator, Nat.cast_mul, mul_div_assoc]

theorem denominator_pos (decimal : Decimal) : 0 < decimal.denominator := Nat.pow_pos (by decide)

theorem roundsTo_iff {decimal : Decimal} {magnitude : Nat} (finite : magnitude < infinity) :
    decimal.RoundsTo magnitude ↔ NearestEven decimal.value magnitude := by
  rw [RoundsTo, value_eq_div, Binary64.roundsTo_iff_nearestEven decimal.denominator_pos finite]

section Order

variable {magnitude : Nat}

private theorem order_predicate_iff (power : Nat) :
    unitsPerOne * Nat.pow 10 power ≤ units magnitude * Nat.pow 10 orderOffset ↔
      (10 : ℚ) ^ ((power : Int) - orderOffset) ≤ valueOf magnitude := by
  have scale : (0 : ℚ) < 10 ^ orderOffset := by positivity
  rw [zpow_sub₀ (by norm_num), zpow_natCast, zpow_natCast, valueOf,
    div_le_div_iff₀ scale Binary64.unitsPerOne_pos, ← @Nat.cast_le ℚ]
  simp only [Nat.pow_eq]
  push_cast
  rw [mul_comm (unitsPerOne : ℚ)]

private theorem smallest_in_sight (positive : magnitude ≠ 0) :
    unitsPerOne * Nat.pow 10 0 ≤ units magnitude * Nat.pow 10 orderOffset := by
  have smallest : unitsPerOne * Nat.pow 10 0 ≤ 1 * Nat.pow 10 orderOffset := by decide +kernel
  have least : 1 ≤ units magnitude :=
    (Nat.pos_of_ne_zero positive).trans_le Binary64.units_strictMono.le_apply
  exact Nat.le_trans smallest (Nat.mul_le_mul_right (Nat.pow 10 orderOffset) least)

private theorem largest_in_sight (finite : magnitude < infinity) :
    units magnitude * Nat.pow 10 orderOffset < unitsPerOne * Nat.pow 10 (0 + Nat.pow 2 10) := by
  have largest : units infinity * Nat.pow 10 orderOffset < unitsPerOne * Nat.pow 10 (0 + Nat.pow 2 10) := by
    decide +kernel
  have most : units magnitude ≤ units infinity := (Binary64.units_strictMono finite).le
  exact Nat.lt_of_le_of_lt (Nat.mul_le_mul_right (Nat.pow 10 orderOffset) most) largest

private theorem lastPower_spec {scale size bits : Nat} (first : scale * Nat.pow 10 0 ≤ size)
    (behind : ¬ scale * Nat.pow 10 (0 + Nat.pow 2 bits) ≤ size) :
    ∃ power, power = Binary64.lastHolding (fun power => decide (scale * Nat.pow 10 power ≤ size)) bits 0 ∧
      scale * Nat.pow 10 power ≤ size ∧ ¬ scale * Nat.pow 10 (power + 1) ≤ size := by
  have between := @Binary64.lastHolding_spec (fun power => decide (scale * Nat.pow 10 power ≤ size)) bits 0
    (decide_eq_true first) (decide_eq_false behind)
  exact ⟨_, rfl, of_decide_eq_true between.1, of_decide_eq_false between.2⟩

/-- The powers in sight start below the smallest value and end above the largest. -/
theorem order_spec (positive : magnitude ≠ 0) (finite : magnitude < infinity) :
    (10 : ℚ) ^ (order magnitude - 1) ≤ valueOf magnitude ∧
      valueOf magnitude < (10 : ℚ) ^ order magnitude := by
  obtain ⟨power, last, reached, missed⟩ :=
    lastPower_spec (smallest_in_sight positive) (Nat.not_le_of_lt (largest_in_sight finite))
  rw [order_predicate_iff] at reached
  rw [order_predicate_iff, not_le] at missed
  have lower : order magnitude - 1 = (power : Int) - orderOffset := by
    rw [order, ← last]
    omega
  have upper : order magnitude = ((power + 1 : Nat) : Int) - orderOffset := by
    rw [order, ← last, Nat.cast_succ]
  rw [lower, upper]
  exact ⟨reached, missed⟩

theorem order_bounds (magnitude : Nat) : -399 ≤ order magnitude ∧ order magnitude ≤ 624 := by
  have bound := Binary64.lastHolding_lt (fun power => decide (unitsPerOne * Nat.pow 10 power ≤
      units magnitude * Nat.pow 10 orderOffset)) 10 0
  have size : Nat.pow 2 10 = 1024 := rfl
  have offset : orderOffset = 400 := rfl
  rw [order]
  omega

end Order

section Grid

variable (magnitude : Nat) (exponent : Int)

theorem ten_zpow_pos : (0 : ℚ) < 10 ^ exponent := zpow_pos (by norm_num) exponent

private theorem onGrid_pos : (0 : ℚ) < (onGrid magnitude exponent).2 := by
  rw [onGrid, Nat.cast_mul]
  exact mul_pos Binary64.unitsPerOne_pos (Nat.cast_pos.mpr (Nat.pow_pos (by decide)))

theorem onGrid_eq : ((onGrid magnitude exponent).1 : ℚ) / (onGrid magnitude exponent).2 =
    valueOf magnitude / 10 ^ exponent := by
  rw [zpow_eq_div, valueOf, onGrid, Nat.cast_mul, Nat.cast_mul, div_div_div_eq]

theorem below_eq_floor : below magnitude exponent = ⌊valueOf magnitude / 10 ^ exponent⌋₊ := by
  rw [← onGrid_eq, Nat.floor_div_eq_div, below]

theorem below_le : (below magnitude exponent : ℚ) * 10 ^ exponent ≤ valueOf magnitude := by
  rw [← le_div_iff₀ (ten_zpow_pos exponent), below_eq_floor]
  exact Nat.floor_le (div_nonneg (Binary64.valueOf_nonneg magnitude) (ten_zpow_pos exponent).le)

theorem lt_succ_below : valueOf magnitude < (below magnitude exponent + 1) * (10 : ℚ) ^ exponent := by
  rw [← div_lt_iff₀ (ten_zpow_pos exponent), below_eq_floor]
  exact Nat.lt_floor_add_one _

theorem nearer_eq_or : nearer magnitude exponent = below magnitude exponent ∨
    nearer magnitude exponent = below magnitude exponent + 1 := by
  rw [nearer]
  split
  · exact .inl rfl
  · exact .inr rfl

/-- Which neighbour is nearer shows without division. -/
theorem before_midpoint_iff : 2 * (onGrid magnitude exponent).1 <
    (2 * below magnitude exponent + 1) * (onGrid magnitude exponent).2 ↔
      2 * valueOf magnitude < (2 * below magnitude exponent + 1) * (10 : ℚ) ^ exponent := by
  rw [← div_lt_iff₀ (ten_zpow_pos exponent), mul_div_assoc, ← onGrid_eq, ← mul_div_assoc,
    div_lt_iff₀ (onGrid_pos magnitude exponent)]
  exact_mod_cast Iff.rfl

/-- The nearer point is off by half a step at most. -/
theorem nearer_close :
    |(nearer magnitude exponent : ℚ) * 10 ^ exponent - valueOf magnitude| ≤ 10 ^ exponent / 2 := by
  have lower := below_le magnitude exponent
  have upper := lt_succ_below magnitude exponent
  rw [nearer, abs_le]
  split
  · rename_i nearer
    rw [before_midpoint_iff] at nearer
    constructor <;> linarith
  · rename_i nearer
    rw [before_midpoint_iff, not_lt] at nearer
    push_cast
    constructor <;> linarith

end Grid

section Strip

variable (digits : Nat) (exponent : Int)

theorem strip_of_ends {digits : Nat} (ends : digits = 0 ∨ digits % 10 ≠ 0) :
    strip digits exponent = ⟨digits, exponent⟩ := by
  rw [strip, if_pos ends]

theorem strip_of_goesOn {digits : Nat} (goesOn : ¬ (digits = 0 ∨ digits % 10 ≠ 0)) :
    strip digits exponent = strip (digits / 10) (exponent + 1) := by
  rw [strip, if_neg goesOn]

theorem strip_value : (strip digits exponent).value = digits * 10 ^ exponent := by
  induction digits, exponent using strip.induct with
  | case1 digits exponent ends =>
    rw [strip_of_ends exponent ends]
    rfl
  | case2 digits exponent goesOn ih =>
    have split : digits = digits / 10 * 10 := by omega
    rw [strip_of_goesOn exponent goesOn, ih, zpow_add_one₀ (by norm_num)]
    nth_rewrite 2 [split]
    push_cast
    ring

private theorem strip_digits_le : (strip digits exponent).digits ≤ digits := by
  induction digits, exponent using strip.induct with
  | case1 digits exponent ends => rw [strip_of_ends exponent ends]
  | case2 digits exponent goesOn ih =>
    rw [strip_of_goesOn exponent goesOn]
    omega

/-- Nothing is left to strip. -/
theorem strip_digits_mod {digits : Nat} (positive : 0 < digits) :
    (strip digits exponent).digits % 10 ≠ 0 := by
  induction digits, exponent using strip.induct with
  | case1 digits exponent ends =>
    rw [strip_of_ends exponent ends]
    exact ends.resolve_left positive.ne'
  | case2 digits exponent goesOn ih =>
    rw [strip_of_goesOn exponent goesOn]
    exact ih (by omega)

/-- What is left has no more than so many digits, also of the next power of ten. -/
theorem strip_digits_lt {digits count : Nat} (positive : 0 < digits) (some_digit : 0 < count)
    (bound : digits ≤ 10 ^ count) : (strip digits exponent).digits < 10 ^ count := by
  have ends := strip_digits_mod exponent positive
  refine lt_of_le_of_ne ((strip_digits_le digits exponent).trans bound) ?_
  intro full
  rw [full] at ends
  exact ends (Nat.mod_eq_zero_of_dvd (dvd_pow_self 10 some_digit.ne'))

/-- The point stays where it is. -/
private theorem strip_point : ((Digits.ofNat (strip digits exponent).digits).length : Int) +
    (strip digits exponent).exponent = (Digits.ofNat digits).length + exponent := by
  induction digits, exponent using strip.induct with
  | case1 digits exponent ends => rw [strip_of_ends exponent ends]
  | case2 digits exponent goesOn ih =>
    have large : 10 ≤ digits := by omega
    rw [strip_of_goesOn exponent goesOn, ih, Digits.ofNat_of_le large, List.length_append,
      List.length_singleton]
    push_cast
    ring

end Strip

section Search

variable {magnitude : Nat}

/-- An accepted point rounds to the magnitude and is a neighbour of the value. -/
private theorem accepted?_some {exponent : Int} {digits : Nat}
    (accepted : accepted? magnitude exponent = some digits) :
    RoundsTo ⟨digits, exponent⟩ magnitude ∧
      (digits = below magnitude exponent ∨ digits = below magnitude exponent + 1) := by
  simp only [accepted?] at accepted
  split_ifs at accepted with lower upper upper
  · obtain rfl := Option.some.inj accepted
    rcases nearer_eq_or magnitude exponent with same | same
    · exact ⟨same ▸ lower, .inl same⟩
    · exact ⟨same ▸ upper, .inr same⟩
  · obtain rfl := Option.some.inj accepted
    exact ⟨lower, .inl rfl⟩
  · obtain rfl := Option.some.inj accepted
    exact ⟨upper, .inr rfl⟩

/-- How a search over the grids from `first` to `last` ends. -/
structure Found (magnitude first last grid digits : Nat) : Prop where
  first_le : first ≤ grid
  le_last : grid ≤ last
  coarser : ∀ other, first ≤ other → other < grid →
    accepted? magnitude (order magnitude - other) = none
  chosen : accepted? magnitude (order magnitude - grid) = some digits ∨
    grid = last ∧ digits = nearer magnitude (order magnitude - grid)

private theorem exists_found (magnitude more first : Nat) :
    ∃ grid digits : Nat, search magnitude more first = ⟨digits, order magnitude - grid⟩ ∧
      Found magnitude first (first + more) grid digits := by
  induction more generalizing first with
  | zero =>
    refine ⟨first, _, rfl, le_refl _, le_refl _, ?_, .inr ⟨rfl, rfl⟩⟩
    intro other from_first below
    omega
  | succ more ih =>
    simp only [search]
    split
    · rename_i digits accepted
      refine ⟨first, digits, rfl, le_refl _, Nat.le_add_right _ _, ?_, .inl accepted⟩
      intro other from_first below
      omega
    · rename_i rejected
      obtain ⟨grid, digits, ends, found⟩ := ih (first + 1)
      have last : first + 1 + more = first + (more + 1) := by omega
      refine ⟨grid, digits, ends, Nat.le_of_succ_le found.first_le, last ▸ found.le_last, ?_,
        last ▸ found.chosen⟩
      intro other from_first below
      rcases Nat.eq_or_lt_of_le from_first with rfl | behind
      · exact rejected
      · exact found.coarser other behind below

variable (positive : magnitude ≠ 0) (finite : magnitude < infinity)
include positive finite

/-- On the grid of so many digits the value lies between numbers of so many digits. -/
private theorem below_bounds {grid : Nat} (some_digit : 0 < grid) :
    10 ^ (grid - 1) ≤ below magnitude (order magnitude - grid) ∧
      below magnitude (order magnitude - grid) < 10 ^ grid := by
  obtain ⟨lower, upper⟩ := order_spec positive finite
  have step := ten_zpow_pos (order magnitude - grid)
  have ten : (10 : ℚ) ≠ 0 := by norm_num
  rw [below_eq_floor]
  constructor
  · rw [Nat.le_floor_iff (div_nonneg (Binary64.valueOf_nonneg magnitude) step.le), le_div_iff₀ step]
    have exponent : ((grid - 1 : Nat) : Int) + (order magnitude - grid) = order magnitude - 1 := by
      rw [Nat.cast_pred some_digit]
      ring
    push_cast
    rw [← zpow_natCast, ← zpow_add₀ ten, exponent]
    exact lower
  · rw [Nat.floor_lt (div_nonneg (Binary64.valueOf_nonneg magnitude) step.le), div_lt_iff₀ step]
    push_cast
    rw [← zpow_natCast, ← zpow_add₀ ten, add_sub_cancel]
    exact upper

/-- On a grid fine enough, half a step is less than half the distance to a neighbouring magnitude. -/
private theorem nearestEven_nearer {exponent : Int}
    (fine : 10 ^ 16 * (10 : ℚ) ^ exponent ≤ valueOf magnitude) :
    NearestEven (nearer magnitude exponent * 10 ^ exponent) magnitude := by
  refine Binary64.nearestEven_of_between finite.le (Binary64.between_of_close positive ?_)
  have close := nearer_close magnitude exponent
  have step := ten_zpow_pos exponent
  linarith

/-- With seventeen digits a grid is fine enough. -/
private theorem last_grid_fine : 10 ^ 16 * (10 : ℚ) ^ (order magnitude - (17 : Nat)) ≤ valueOf magnitude := by
  have exponent : (16 : Nat) + (order magnitude - (17 : Nat)) = order magnitude - 1 := by
    push_cast
    ring
  rw [← zpow_natCast, ← zpow_add₀ (by norm_num), exponent]
  exact (order_spec positive finite).1

/-- The search of `shortest` ends with a neighbour that rounds to the magnitude. -/
theorem exists_shortest :
    ∃ grid digits : Nat, shortest magnitude = strip digits (order magnitude - grid) ∧
      Found magnitude 1 17 grid digits ∧
      NearestEven (digits * 10 ^ (order magnitude - grid)) magnitude ∧
      10 ^ (grid - 1) ≤ digits ∧ digits ≤ 10 ^ grid := by
  obtain ⟨grid, digits, ends, found⟩ := exists_found magnitude 16 1
  have bounds := below_bounds positive finite found.first_le
  have short : shortest magnitude = strip digits (order magnitude - grid) := by
    rw [shortest, ends]
  refine ⟨grid, digits, short, found, ?_⟩
  rcases found.chosen with accepted | ⟨last, chosen⟩
  · obtain ⟨rounds, neighbour⟩ := accepted?_some accepted
    exact ⟨(roundsTo_iff finite).mp rounds, by omega⟩
  · have neighbour := nearer_eq_or magnitude (order magnitude - grid)
    have fine : 10 ^ 16 * (10 : ℚ) ^ (order magnitude - grid) ≤ valueOf magnitude := by
      rw [last]
      exact last_grid_fine positive finite
    have nearest := nearestEven_nearer positive finite fine
    rw [← chosen] at neighbour nearest
    exact ⟨nearest, by omega⟩

/-- The shortest decimal rounds to its magnitude. -/
theorem nearestEven_shortest : NearestEven (shortest magnitude).value magnitude := by
  obtain ⟨grid, digits, short, _, nearest, _⟩ := exists_shortest positive finite
  rw [short, strip_value]
  exact nearest

theorem shortest_digits :
    (shortest magnitude).digits % 10 ≠ 0 ∧ (shortest magnitude).digits < 10 ^ 17 := by
  obtain ⟨grid, digits, short, found, _, lower, upper⟩ := exists_shortest positive finite
  have some_digit : 0 < digits := (Nat.pow_pos (by decide)).trans_le lower
  have seventeen : 10 ^ grid ≤ 10 ^ 17 := Nat.pow_le_pow_right (by decide) found.le_last
  rw [short]
  exact ⟨strip_digits_mod _ some_digit, strip_digits_lt _ some_digit (by decide) (upper.trans seventeen)⟩

/-- The point of the shortest decimal is that of the value, or one place later when it is rounded up to a
power of ten. -/
theorem shortest_point :
    order magnitude ≤ (Digits.ofNat (shortest magnitude).digits).length + (shortest magnitude).exponent ∧
      (Digits.ofNat (shortest magnitude).digits).length + (shortest magnitude).exponent ≤
        order magnitude + 1 := by
  obtain ⟨grid, digits, short, found, _, lower, upper⟩ := exists_shortest positive finite
  have power : 0 < 10 ^ grid := Nat.pow_pos (by decide)
  have few : (Digits.ofNat digits).length ≤ grid + 1 := by
    rw [Digits.length_ofNat_le_iff (Nat.succ_pos grid), Nat.pow_succ]
    omega
  have many : grid ≤ (Digits.ofNat digits).length := by
    have some_digit := List.length_pos_iff.mpr (Digits.ofNat_ne_nil digits)
    by_contra fewer
    have small := (Digits.length_ofNat_le_iff (by omega)).mp (Nat.le_sub_one_of_lt (Nat.not_le.mp fewer))
    omega
  rw [short, strip_point]
  omega

end Search

end Decimal

end OwnedText
