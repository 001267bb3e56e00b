import Mathlib
import OwnedText.Proofs.Decimal.Magnitude

/-! # Rounding to the nearest magnitude

What rounding means is said without midpoints: of all magnitudes up to infinity the nearest one is
chosen, and of two that are equally near the even one. A rational has at most one such magnitude. For a
finite magnitude the choice is the same as staying between the midpoints to both neighbours, since
values grow with magnitudes, and that is what the integers in `RoundsTo` compare. So the rationals that
round to one magnitude lie around its value without a gap.
-/

namespace OwnedText.Binary64

/-- Rounding to nearest, ties to even. -/
structure NearestEven (rational : ℚ) (magnitude : Nat) : Prop where
  bounded : magnitude ≤ infinity
  nearest : ∀ other ≤ infinity, |valueOf magnitude - rational| ≤ |valueOf other - rational|
  even : ∀ other ≤ infinity, other ≠ magnitude →
    |valueOf other - rational| = |valueOf magnitude - rational| → magnitude % 2 = 0

/-- A rational lies between the midpoints on both sides of a magnitude, on one of them only if the
magnitude is even. Infinity has nothing above it. -/
structure Between (rational : ℚ) (magnitude : Nat) : Prop where
  above : ∀ below, magnitude = below + 1 →
    valueOf below + valueOf magnitude < 2 * rational ∨
      valueOf below + valueOf magnitude = 2 * rational ∧ magnitude % 2 = 0
  beneath : magnitude < infinity →
    2 * rational < valueOf magnitude + valueOf (magnitude + 1) ∨
      2 * rational = valueOf magnitude + valueOf (magnitude + 1) ∧ magnitude % 2 = 0

/-- The upper one of two numbers is the nearer one if their midpoint is not exceeded. -/
private theorem upper_nearer_iff {lower upper rational : ℚ} (less : lower < upper) :
    |upper - rational| ≤ |lower - rational| ↔ lower + upper ≤ 2 * rational := by
  rcases abs_cases (upper - rational) with ⟨size, _⟩ | ⟨size, _⟩ <;>
    rcases abs_cases (lower - rational) with ⟨size', _⟩ | ⟨size', _⟩ <;>
    rw [size, size'] <;> constructor <;> intro bound <;> linarith

private theorem lower_nearer_iff {lower upper rational : ℚ} (less : lower < upper) :
    |lower - rational| ≤ |upper - rational| ↔ 2 * rational ≤ lower + upper := by
  rcases abs_cases (upper - rational) with ⟨size, _⟩ | ⟨size, _⟩ <;>
    rcases abs_cases (lower - rational) with ⟨size', _⟩ | ⟨size', _⟩ <;>
    rw [size, size'] <;> constructor <;> intro bound <;> linarith

namespace NearestEven

variable {rational : ℚ} {magnitude other : Nat}

theorem midpoint_le (nearest : NearestEven rational magnitude) (before : other < magnitude) :
    valueOf other + valueOf magnitude ≤ 2 * rational :=
  (upper_nearer_iff (valueOf_strictMono before)).mp
    (nearest.nearest other (before.le.trans nearest.bounded))

theorem le_midpoint (nearest : NearestEven rational magnitude) (behind : magnitude < other)
    (bounded : other ≤ infinity) : 2 * rational ≤ valueOf magnitude + valueOf other :=
  (lower_nearer_iff (valueOf_strictMono behind)).mp (nearest.nearest other bounded)

/-- On a midpoint both magnitudes are equally near. -/
theorem even_of_midpoint (nearest : NearestEven rational magnitude) (bounded : other ≤ infinity)
    (apart : other ≠ magnitude) (midpoint : valueOf other + valueOf magnitude = 2 * rational) :
    magnitude % 2 = 0 := by
  apply nearest.even other bounded apart
  have mirrored : valueOf other - rational = -(valueOf magnitude - rational) := by linarith
  rw [mirrored, abs_neg]

/-- Two candidates would both be even, and a magnitude between them would be nearer. -/
private theorem not_lt (first : NearestEven rational magnitude) (second : NearestEven rational other) :
    ¬ magnitude < other := by
  intro less
  have midpoint : valueOf magnitude + valueOf other = 2 * rational :=
    le_antisymm (second.midpoint_le less) (first.le_midpoint less second.bounded)
  have even := first.even_of_midpoint second.bounded less.ne' (by linarith)
  have even' := second.even_of_midpoint first.bounded less.ne midpoint
  have between : magnitude + 1 < other := by omega
  have farther := first.le_midpoint (Nat.lt_succ_self magnitude) (between.le.trans second.bounded)
  have grows := valueOf_strictMono between
  rw [← midpoint] at farther
  exact absurd farther (by linarith)

theorem unique (first : NearestEven rational magnitude) (second : NearestEven rational other) :
    magnitude = other :=
  Nat.le_antisymm (Nat.not_lt.mp (second.not_lt first)) (Nat.not_lt.mp (first.not_lt second))

end NearestEven

/-- Farther magnitudes have midpoints farther away. -/
theorem nearestEven_of_between {rational : ℚ} {magnitude : Nat} (bounded : magnitude ≤ infinity)
    (between : Between rational magnitude) : NearestEven rational magnitude := by
  have above {other : Nat} (before : other < magnitude) :
      valueOf other + valueOf magnitude ≤ 2 * rational ∧
        (valueOf other + valueOf magnitude = 2 * rational → magnitude % 2 = 0) := by
    obtain ⟨below, rfl⟩ := Nat.exists_eq_add_one_of_ne_zero (Nat.ne_zero_of_lt before)
    have grows := valueOf_strictMono.monotone (Nat.le_of_lt_succ before)
    rcases between.above below rfl with strict | ⟨tie, even⟩
    · exact ⟨by linarith, fun same => absurd same (by linarith)⟩
    · exact ⟨by linarith, fun _ => even⟩
  have beneath {other : Nat} (behind : magnitude < other) (inside : other ≤ infinity) :
      2 * rational ≤ valueOf magnitude + valueOf other ∧
        (2 * rational = valueOf magnitude + valueOf other → magnitude % 2 = 0) := by
    have grows := valueOf_strictMono.monotone (Nat.succ_le_of_lt behind)
    rcases between.beneath (Nat.lt_of_lt_of_le behind inside) with strict | ⟨tie, even⟩
    · exact ⟨by linarith, fun same => absurd same (by linarith)⟩
    · exact ⟨by linarith, fun _ => even⟩
  refine ⟨bounded, ?_, ?_⟩
  · intro other inside
    rcases Nat.lt_trichotomy other magnitude with before | rfl | behind
    · exact (upper_nearer_iff (valueOf_strictMono before)).mpr (above before).1
    · exact le_refl _
    · exact (lower_nearer_iff (valueOf_strictMono behind)).mpr (beneath behind inside).1
  · intro other inside apart same
    rcases Nat.lt_or_gt_of_ne apart with before | behind
    · have bound := (lower_nearer_iff (valueOf_strictMono before)).mp same.le
      exact (above before).2 (le_antisymm (above before).1 bound)
    · have bound := (upper_nearer_iff (valueOf_strictMono behind)).mp same.le
      exact (beneath behind inside).2 (le_antisymm (beneath behind inside).1 bound)

theorem nearestEven_iff_between {rational : ℚ} {magnitude : Nat} (bounded : magnitude ≤ infinity) :
    NearestEven rational magnitude ↔ Between rational magnitude := by
  refine ⟨?_, nearestEven_of_between bounded⟩
  intro nearest
  constructor
  · rintro below rfl
    rcases (nearest.midpoint_le (Nat.lt_succ_self below)).lt_or_eq with strict | tie
    · exact .inl strict
    · exact .inr ⟨tie, nearest.even_of_midpoint (by omega) (by omega) tie⟩
  · intro finite
    rcases (nearest.le_midpoint (Nat.lt_succ_self magnitude) finite).lt_or_eq with strict | tie
    · exact .inl strict
    · exact .inr ⟨tie, nearest.even_of_midpoint finite (by omega) (by linarith)⟩

/-- A value rounds to its own magnitude. -/
theorem nearestEven_valueOf {magnitude : Nat} (bounded : magnitude ≤ infinity) :
    NearestEven (valueOf magnitude) magnitude := by
  refine nearestEven_of_between bounded ⟨?_, fun _ => .inl ?_⟩
  · rintro below rfl
    have grows := valueOf_strictMono (Nat.lt_succ_self below)
    left
    linarith
  · have grows := valueOf_strictMono (Nat.lt_succ_self magnitude)
    linarith

theorem nearestEven_zero : NearestEven 0 0 := by
  have own := nearestEven_valueOf (Nat.zero_le infinity)
  rwa [valueOf_zero] at own

/-- The rationals that round to one magnitude have no gaps. -/
theorem NearestEven.of_le_of_le {lower rational upper : ℚ} {magnitude : Nat}
    (first : NearestEven lower magnitude) (last : NearestEven upper magnitude)
    (from_lower : lower ≤ rational) (to_upper : rational ≤ upper) : NearestEven rational magnitude := by
  have between := (nearestEven_iff_between first.bounded).mp first
  have between' := (nearestEven_iff_between last.bounded).mp last
  refine nearestEven_of_between first.bounded ⟨?_, ?_⟩
  · intro below same
    rcases between.above below same with strict | ⟨tie, even⟩
    · exact .inl (by linarith)
    · have reached : valueOf below + valueOf magnitude ≤ 2 * rational := by linarith
      exact reached.lt_or_eq.imp_right fun tie => ⟨tie, even⟩
  · intro finite
    rcases between'.beneath finite with strict | ⟨tie, even⟩
    · exact .inl (by linarith)
    · have reached : 2 * rational ≤ valueOf magnitude + valueOf (magnitude + 1) := by linarith
      exact reached.lt_or_eq.imp_right fun tie => ⟨tie, even⟩

/-- Comparing with a midpoint takes no division. -/
theorem reaches_succ_iff {numerator denominator : Nat} (positive : 0 < denominator) (below : Nat) :
    Reaches numerator denominator (below + 1) ↔
      valueOf below + valueOf (below + 1) < 2 * ((numerator : ℚ) / denominator) ∨
        valueOf below + valueOf (below + 1) = 2 * ((numerator : ℚ) / denominator) ∧
          (below + 1) % 2 = 0 := by
  have scale : (0 : ℚ) < denominator := Nat.cast_pos.mpr positive
  have midpoint : valueOf below + valueOf (below + 1) =
      (units below + units (below + 1) : ℚ) / unitsPerOne := by
    rw [valueOf, valueOf, add_div]
  have twice : 2 * ((numerator : ℚ) / denominator) = 2 * numerator / denominator := by ring
  rw [midpoint, twice, div_lt_div_iff₀ unitsPerOne_pos scale, div_eq_div_iff unitsPerOne_pos.ne' scale.ne',
    Reaches]
  norm_cast
  rw [Nat.mul_comm denominator, Nat.mul_assoc 2]

/-- The tests on integers are the comparisons with both midpoints. -/
theorem between_iff_reaches {numerator denominator magnitude : Nat} (positive : 0 < denominator) :
    Between ((numerator : ℚ) / denominator) magnitude ↔
      Reaches numerator denominator magnitude ∧
        (magnitude < infinity → ¬ Reaches numerator denominator (magnitude + 1)) := by
  rw [reaches_succ_iff positive]
  constructor
  · intro between
    constructor
    · cases magnitude with
      | zero => trivial
      | succ below => exact (reaches_succ_iff positive below).mpr (between.above below rfl)
    · rintro finite (strict | ⟨tie, even⟩)
      · rcases between.beneath finite with lower | ⟨lower, _⟩ <;> linarith
      · rcases between.beneath finite with lower | ⟨_, even'⟩
        · linarith
        · omega
  · rintro ⟨reached, passed⟩
    constructor
    · rintro below rfl
      exact (reaches_succ_iff positive below).mp reached
    · intro finite
      have bound := not_lt.mp fun strict => passed finite (.inl strict)
      rcases bound.lt_or_eq with strict | tie
      · exact .inl strict
      · refine .inr ⟨tie, ?_⟩
        have odd : (magnitude + 1) % 2 ≠ 0 := fun even => passed finite (.inr ⟨tie.symm, even⟩)
        omega

/-- The test on integers is the rounding of a rational. -/
theorem roundsTo_iff_nearestEven {numerator denominator magnitude : Nat} (positive : 0 < denominator)
    (finite : magnitude < infinity) :
    RoundsTo numerator denominator magnitude ↔
      NearestEven ((numerator : ℚ) / denominator) magnitude := by
  rw [nearestEven_iff_between finite.le, between_iff_reaches positive, RoundsTo]
  simp only [finite, forall_const]

/-- A binary search stops between a number with the property and the next one, without it. -/
theorem lastHolding_spec {holds : Nat → Bool} {bits base : Nat} (first : holds base = true)
    (behind : holds (base + Nat.pow 2 bits) = false) :
    holds (lastHolding holds bits base) = true ∧ holds (lastHolding holds bits base + 1) = false := by
  induction bits generalizing base with
  | zero => exact ⟨first, behind⟩
  | succ bits ih =>
    have doubled : base + Nat.pow 2 bits + Nat.pow 2 bits = base + Nat.pow 2 (bits + 1) := by
      simp only [Nat.pow_eq, Nat.pow_succ]
      omega
    simp only [lastHolding]
    split
    · rename_i upper
      exact ih upper (doubled ▸ behind)
    · rename_i lower
      exact ih first (Bool.eq_false_iff.mpr lower)

theorem lastHolding_lt (holds : Nat → Bool) (bits base : Nat) :
    lastHolding holds bits base < base + Nat.pow 2 bits := by
  induction bits generalizing base with
  | zero => exact Nat.lt_succ_self base
  | succ bits ih =>
    have doubled : Nat.pow 2 (bits + 1) = Nat.pow 2 bits + Nat.pow 2 bits := by
      simp only [Nat.pow_eq, Nat.pow_succ]
      omega
    simp only [lastHolding, doubled]
    split
    · have upper := ih (base + Nat.pow 2 bits)
      omega
    · have lower := ih base
      omega

private theorem exists_nearest (numerator denominator : Nat) :
    ∃ magnitude, nearest numerator denominator = magnitude ∧
      (magnitude ≤ infinity ∧ Reaches numerator denominator magnitude) ∧
      ¬ (magnitude + 1 ≤ infinity ∧ Reaches numerator denominator (magnitude + 1)) := by
  have search {bits : Nat} (large : infinity < 0 + Nat.pow 2 bits) := @lastHolding_spec
    (fun magnitude => decide (magnitude ≤ infinity ∧ Reaches numerator denominator magnitude)) bits 0
    (decide_eq_true ⟨Nat.zero_le infinity, trivial⟩)
    (decide_eq_false fun both => Nat.not_le_of_lt large both.1)
  obtain ⟨last, next⟩ := search (by decide : infinity < 0 + Nat.pow 2 63)
  exact ⟨_, rfl, of_decide_eq_true last, of_decide_eq_false next⟩

/-- Every rational that is not negative rounds to some magnitude, and the search finds it. -/
theorem nearestEven_nearest (numerator : Nat) {denominator : Nat} (positive : 0 < denominator) :
    NearestEven ((numerator : ℚ) / denominator) (nearest numerator denominator) := by
  obtain ⟨magnitude, found, ⟨bounded, reached⟩, last⟩ := exists_nearest numerator denominator
  rw [found]
  apply nearestEven_of_between bounded
  rw [between_iff_reaches positive]
  refine ⟨reached, ?_⟩
  intro finite further
  exact last ⟨finite, further⟩

/-- A rational that is near enough to a value, as the significand of the value measures it. -/
theorem between_of_close {rational : ℚ} {magnitude : Nat} (positive : magnitude ≠ 0)
    (close : 2 ^ 54 * |rational - valueOf magnitude| < valueOf magnitude) : Between rational magnitude := by
  obtain ⟨below, rfl⟩ := Nat.exists_eq_add_one_of_ne_zero positive
  have lower := valueOf_succ_le below
  have upper := valueOf_succ_le (below + 1)
  have grows := valueOf_strictMono (Nat.lt_succ_self (below + 1))
  have bounds := abs_le.mp (le_refl |rational - valueOf (below + 1)|)
  refine ⟨?_, fun _ => .inl ?_⟩
  · rintro other same
    obtain rfl := Nat.succ_injective same
    left
    linarith
  · linarith

end OwnedText.Binary64
