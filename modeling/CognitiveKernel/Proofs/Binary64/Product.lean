/-
Module: CognitiveKernel.Proofs.Binary64.Product
Purpose: Products are rounded to the nearest number, and scaling by a positive number is monotone.
Main exports: Magnitude.IsNearest, Magnitude.isNearest_nearest, Magnitude.isNearest_ofDecimal,
  Binary64.IsNearest, Binary64.isNearest_product, Binary64.product_mono, Binary64.product_one
-/
import CognitiveKernel.Proofs.Binary64.Value

namespace CognitiveKernel

/-! ### Distances -/

/-- A number on the far side of the middle is farther away, or as far if the middle is exact. -/
theorem distance_of_middle_le {near far exact : ℚ} (order : far ≤ near)
    (middle : far + near ≤ 2 * exact) :
    |near - exact| ≤ |far - exact| ∧
      (|near - exact| = |far - exact| → near = far ∨ far + near = 2 * exact) := by
  have farBelow : |far - exact| = exact - far := by
    rw [abs_sub_comm]
    exact abs_of_nonneg (by linarith)
  rw [farBelow]
  rcases le_total near exact with below | above
  · have nearBelow : |near - exact| = exact - near := by
      rw [abs_sub_comm]
      exact abs_of_nonneg (by linarith)
    rw [nearBelow]
    exact ⟨by linarith, fun same => Or.inl (by linarith)⟩
  · rw [abs_of_nonneg (by linarith)]
    exact ⟨by linarith, fun same => Or.inr (by linarith)⟩

theorem distance_of_le_middle {near far exact : ℚ} (order : near ≤ far)
    (middle : 2 * exact ≤ near + far) :
    |near - exact| ≤ |far - exact| ∧
      (|near - exact| = |far - exact| → near = far ∨ near + far = 2 * exact) := by
  have mirrored := @distance_of_middle_le (-near) (-far) (-exact) (by linarith) (by linarith)
  have flip (x : ℚ) : |-x - -exact| = |x - exact| := by
    rw [← abs_neg (x - exact)]
    congr 1
    ring
  rw [flip, flip] at mirrored
  refine ⟨mirrored.1, fun same => ?_⟩
  rcases mirrored.2 same with equal | middle
  · exact Or.inl (by linarith)
  · exact Or.inr (by linarith)

namespace Magnitude

/-- A real magnitude that is at least as near to an exact size as any other, and that is the even
one of two that are equally near. -/
structure IsNearest (exact : ℚ) (magnitude : Magnitude) : Prop where
  finite : magnitude.isFinite = true
  near : ∀ other : Magnitude, |magnitude.value - exact| ≤ |other.value - exact|
  tie : ∀ other : Magnitude, other ≠ magnitude →
    |magnitude.value - exact| = |other.value - exact| → magnitude.rank % 2 = 0

/-- Comparing the sum of two sizes with twice a quotient, in whole numbers. -/
theorem value_add_value_compare {numerator denominator : Nat} (positive : 0 < denominator)
    (left right : Magnitude) :
    (left.value + right.value ≤ 2 * (numerator / (denominator * unitsPerOne)) ↔
        (left.units + right.units) * denominator ≤ 2 * numerator) ∧
      (2 * ((numerator : ℚ) / (denominator * unitsPerOne)) ≤ left.value + right.value ↔
        2 * numerator ≤ (left.units + right.units) * denominator) := by
  have unit := cast_unitsPerOne_pos
  have scale : (0 : ℚ) < denominator * unitsPerOne := mul_pos (Nat.cast_pos.mpr positive) unit
  have sum : (left.value + right.value) * (denominator * unitsPerOne) =
      (left.units + right.units) * denominator := by
    rw [value, value]
    field_simp
  have twice : 2 * ((numerator : ℚ) / (denominator * unitsPerOne)) *
      (denominator * unitsPerOne) = 2 * numerator := by
    field_simp
  constructor
  · rw [← mul_le_mul_iff_of_pos_right scale, sum, twice]
    exact_mod_cast Iff.rfl
  · rw [← mul_le_mul_iff_of_pos_right scale, sum, twice]
    exact_mod_cast Iff.rfl

section

variable {magnitude other : Magnitude} {numerator denominator : Nat}

/-- The middle between a magnitude and a lesser one is not above what rounds to the magnitude. -/
theorem middle_le_of_rank_lt (positive : 0 < denominator)
    (rounds : RoundsTo magnitude.rank numerator denominator)
    (less : other.rank < magnitude.rank) :
    other.value + magnitude.value ≤ 2 * (numerator / (denominator * unitsPerOne)) ∧
      (other.value + magnitude.value = 2 * (numerator / (denominator * unitsPerOne)) →
        magnitude.rank % 2 = 0) := by
  have step : other.units ≤ unitsOfRank (magnitude.rank - 1) :=
    unitsOfRank_strictMono.monotone (by omega)
  have middles : (other.units + magnitude.units) * denominator ≤
      (unitsOfRank (magnitude.rank - 1) + unitsOfRank magnitude.rank) * denominator :=
    Nat.mul_le_mul_right _ (Nat.add_le_add_right step _)
  obtain ⟨below, above⟩ := @value_add_value_compare numerator denominator positive other magnitude
  have lower := rounds.lower
  have lowerNe := rounds.lower_ne
  refine ⟨below.mpr (middles.trans lower), fun same => ?_⟩
  have reached := above.mp same.ge
  omega

/-- The middle between a magnitude and a greater one is not below what rounds to the magnitude. -/
theorem le_middle_of_rank_lt (positive : 0 < denominator)
    (rounds : RoundsTo magnitude.rank numerator denominator)
    (greater : magnitude.rank < other.rank) :
    2 * ((numerator : ℚ) / (denominator * unitsPerOne)) ≤ magnitude.value + other.value ∧
      (magnitude.value + other.value = 2 * (numerator / (denominator * unitsPerOne)) →
        magnitude.rank % 2 = 0) := by
  have step : unitsOfRank (magnitude.rank + 1) ≤ other.units :=
    unitsOfRank_strictMono.monotone greater
  have middles : (unitsOfRank magnitude.rank + unitsOfRank (magnitude.rank + 1)) * denominator ≤
      (magnitude.units + other.units) * denominator :=
    Nat.mul_le_mul_right _ (Nat.add_le_add_left step _)
  obtain ⟨below, above⟩ := @value_add_value_compare numerator denominator positive magnitude other
  have upper := rounds.upper
  have upperNe := rounds.upper_ne
  refine ⟨above.mpr (upper.trans middles), fun same => ?_⟩
  have reached := below.mp same.le
  omega

theorem value_ne_of_ne (different : other ≠ magnitude) : magnitude.value ≠ other.value := by
  intro same
  apply different
  have ranks : other.rank = magnitude.rank :=
    Nat.le_antisymm (value_le_value.mp same.ge) (value_le_value.mp same.le)
  cases other
  cases magnitude
  cases ranks
  rfl

/-- What rounds to a magnitude is nearest to it. -/
theorem isNearest_of_roundsTo (positive : 0 < denominator)
    (finite : magnitude.isFinite = true)
    (rounds : RoundsTo magnitude.rank numerator denominator) :
    magnitude.IsNearest (numerator / (denominator * unitsPerOne)) := by
  have compare (other : Magnitude) :
      |magnitude.value - numerator / (denominator * unitsPerOne)| ≤
          |other.value - numerator / (denominator * unitsPerOne)| ∧
        (other ≠ magnitude →
          |magnitude.value - numerator / (denominator * unitsPerOne)| =
            |other.value - numerator / (denominator * unitsPerOne)| → magnitude.rank % 2 = 0) := by
    rcases Nat.lt_trichotomy other.rank magnitude.rank with less | equal | greater
    · obtain ⟨middle, even⟩ := middle_le_of_rank_lt positive rounds less
      obtain ⟨near, tie⟩ := distance_of_middle_le (value_lt_value.mpr less).le middle
      refine ⟨near, fun different same => ?_⟩
      rcases tie same with equal | exact
      · exact absurd equal (value_ne_of_ne different)
      · exact even exact
    · have same : magnitude.value = other.value :=
        le_antisymm (value_le_value.mpr equal.ge) (value_le_value.mpr equal.le)
      exact ⟨by rw [same], fun different => absurd same (value_ne_of_ne different)⟩
    · obtain ⟨middle, even⟩ := le_middle_of_rank_lt positive rounds greater
      obtain ⟨near, tie⟩ := distance_of_le_middle (value_lt_value.mpr greater).le middle
      refine ⟨near, fun different same => ?_⟩
      rcases tie same with equal | exact
      · exact absurd equal (value_ne_of_ne different)
      · exact even exact
  exact ⟨finite, fun other => (compare other).1, fun other => (compare other).2⟩

/-- Rounding a quotient gives the nearest magnitude, unless the quotient is too large. -/
theorem isNearest_nearest (positive : 0 < denominator)
    (finite : (nearest numerator denominator).isFinite = true) :
    (nearest numerator denominator).IsNearest (numerator / (denominator * unitsPerOne)) := by
  have below : (nearest numerator denominator).rank < infinityRank := of_decide_eq_true finite
  have rank : (nearest numerator denominator).rank = nearestRank numerator denominator := by
    simp only [nearest, ofRank] at below ⊢
    omega
  apply isNearest_of_roundsTo positive finite
  rw [rank]
  exact roundsTo_nearestRank positive

end

theorem value_ofDecimal_quotient (decimal : Decimal) :
    ((decimal.coefficient * unitsPerOne * 10 ^ decimal.exponent.toNat : Nat) : ℚ) /
        ((10 ^ (-decimal.exponent).toNat : Nat) * unitsPerOne) = decimal.value := by
  have tens : (10 : ℚ) ^ (-decimal.exponent).toNat ≠ 0 := pow_ne_zero _ (by norm_num)
  have unit := cast_unitsPerOne_pos.ne'
  have split := decimal.value_mul_pow
  push_cast
  rw [div_eq_iff (mul_ne_zero tens unit), ← mul_assoc, split]
  ring

/-- Reading a decimal number gives the nearest magnitude, unless the number is too large. -/
theorem isNearest_ofDecimal {decimal : Decimal} (finite : (ofDecimal decimal).isFinite = true) :
    (ofDecimal decimal).IsNearest decimal.value := by
  rw [ofDecimal_eq_nearest] at finite ⊢
  rw [← value_ofDecimal_quotient]
  exact isNearest_nearest (Nat.pow_pos (by decide)) finite

/-! ### Products of magnitudes -/

theorem value_mul_value (left right : Magnitude) :
    left.value * right.value =
      ((left.units * right.units : Nat) : ℚ) / (unitsPerOne * unitsPerOne) := by
  rw [value, value, Nat.cast_mul, div_mul_div_comm]

theorem isNearest_product {left right : Magnitude} (finite : (left.product right).isFinite = true) :
    (left.product right).IsNearest (left.value * right.value) := by
  rw [value_mul_value]
  exact isNearest_nearest unitsPerOne_pos finite

theorem product_mono (factor : Magnitude) {left right : Magnitude} (le : left.rank ≤ right.rank) :
    (factor.product left).rank ≤ (factor.product right).rank := by
  have units : factor.units * left.units ≤ factor.units * right.units :=
    Nat.mul_le_mul_left _ (unitsOfRank_strictMono.monotone le)
  have ranks := nearestRank_mono unitsPerOne_pos units
  simp only [product, nearest, ofRank]
  omega

theorem product_zero (factor : Magnitude) : factor.product zero = zero := by
  have rank : nearestRank (factor.units * zero.units) unitsPerOne = 0 := by
    have noUnits : zero.units = 0 := unitsOfRank_zero
    apply nearestRank_eq_zero
    rw [noUnits, Nat.mul_zero, Nat.mul_zero]
    exact unitsPerOne_pos
  rw [product, nearest, rank]
  rfl

theorem product_one (factor : Magnitude) : factor.product one = factor := by
  have oneUnits : one.units = unitsPerOne := by decide +kernel
  have exact := nearest_of_roundsTo Nat.one_pos (roundsTo_self factor.rank)
  rw [product, oneUnits]
  refine (nearest_congr unitsPerOne_pos Nat.one_pos ?_).trans exact
  rw [Nat.mul_one, units]

end Magnitude

/-! ### Products of numbers -/

namespace Binary64

/-- Whether the last bit of the significand is zero. -/
def isEven : Binary64 → Bool
  | nan _ => false
  | number _ magnitude => magnitude.rank % 2 = 0

/-- A number that stands for a rational number at least as near to an exact one as those of all
other numbers, and that is the even one of two that are equally near. -/
def IsNearest (exact : ℚ) (value : Binary64) : Prop :=
  ∃ x, value.value? = some x ∧
    ∀ (other : Binary64) (y : ℚ), other.value? = some y →
      |x - exact| ≤ |y - exact| ∧ (y ≠ x → |x - exact| = |y - exact| → value.isEven = true)

/-- A number of the wrong sign is never nearer than zero. -/
theorem isNearest_signed {magnitude : Magnitude} {size : ℚ} (nearest : magnitude.IsNearest size)
    (nonneg : 0 ≤ size) (negative : Bool) :
    (number negative magnitude).IsNearest (signed negative size) := by
  refine ⟨signed negative magnitude.value, by rw [value?, if_pos nearest.finite], ?_⟩
  intro other y valueEq
  obtain ⟨negative', magnitude', rfl, -, rfl⟩ := value?_eq_some_iff.mp valueEq
  rw [abs_signed_sub_signed]
  by_cases same : negative' = negative
  · subst same
    rw [abs_signed_sub_signed]
    refine ⟨nearest.near magnitude', fun different equal => ?_⟩
    have other : magnitude' ≠ magnitude := by
      rintro rfl
      exact different rfl
    exact decide_eq_true (nearest.tie magnitude' other equal)
  · have size' := magnitude'.value_nonneg
    have zero := nearest.near .zero
    rw [Magnitude.value_zero, zero_sub, abs_neg, abs_of_nonneg nonneg] at zero
    rw [abs_signed_sub_signed_of_ne same size' nonneg]
    refine ⟨by linarith, fun different equal => ?_⟩
    -- Only zero can be as near, and then zero with the right sign is as near as well.
    have vanishing : magnitude'.value = 0 := by linarith
    have other : Magnitude.zero ≠ magnitude := by
      rintro rfl
      apply different
      rw [vanishing, Magnitude.value_zero]
      cases negative <;> cases negative' <;> simp [signed]
    refine decide_eq_true (nearest.tie .zero other ?_)
    rw [Magnitude.value_zero, zero_sub, abs_neg, abs_of_nonneg nonneg]
    linarith

theorem isNearest_ofDecimal {negative : Bool} {decimal : Decimal}
    (finite : (ofDecimal negative decimal).isFinite = true) :
    (ofDecimal negative decimal).IsNearest (signed negative decimal.value) := by
  apply isNearest_signed (Magnitude.isNearest_ofDecimal finite)
  exact mul_nonneg (Nat.cast_nonneg _) (zpow_nonneg (by norm_num) _)

/-- The product of two numbers is the nearest number to their exact product, unless this is too
large. -/
theorem isNearest_product {left right : Binary64} {x y : ℚ} (leftValue : left.value? = some x)
    (rightValue : right.value? = some y) (finite : (left.product right).isFinite = true) :
    (left.product right).IsNearest (x * y) := by
  obtain ⟨negative, magnitude, rfl, leftFinite, rfl⟩ := value?_eq_some_iff.mp leftValue
  obtain ⟨negative', magnitude', rfl, rightFinite, rfl⟩ := value?_eq_some_iff.mp rightValue
  have product : (number negative magnitude).product (number negative' magnitude') =
      number (negative != negative') (magnitude.product magnitude') := by
    simp [Binary64.product, leftFinite, rightFinite]
  rw [product] at finite ⊢
  rw [signed_mul_signed]
  apply isNearest_signed (Magnitude.isNearest_product finite)
  exact mul_nonneg magnitude.value_nonneg magnitude'.value_nonneg

theorem product_one {value : Binary64} (finite : value.isFinite = true) :
    value.product one = value := by
  cases value with
  | nan => cases finite
  | number negative magnitude =>
      have finiteMagnitude : magnitude.isFinite = true := finite
      have finiteOne : Magnitude.one.isFinite = true := by decide
      simp [Binary64.product, one, finiteMagnitude, finiteOne, magnitude.product_one]

/-- Scaling by a positive factor keeps the order. -/
theorem product_mono {factor : Magnitude} (finite : factor.isFinite = true) {left right : Binary64}
    {x y : ℚ} (leftValue : left.value? = some x) (rightValue : right.value? = some y)
    (le : x ≤ y) :
    ((number false factor).product left).le ((number false factor).product right) = true := by
  obtain ⟨negative, magnitude, rfl, leftFinite, rfl⟩ := value?_eq_some_iff.mp leftValue
  obtain ⟨negative', magnitude', rfl, rightFinite, rfl⟩ := value?_eq_some_iff.mp rightValue
  rw [← position_le_position] at le
  simp only [Binary64.product, finite, leftFinite, rightFinite, Bool.and_self, if_true,
    Bool.false_bne, Binary64.le, decide_eq_true_eq]
  have up := @Magnitude.product_mono factor magnitude magnitude'
  have down := @Magnitude.product_mono factor magnitude' magnitude
  have vanishes (other : Magnitude) (zero : other.rank ≤ Magnitude.zero.rank) :
      (factor.product other).rank ≤ 0 := by
    have bound := Magnitude.product_mono factor zero
    rwa [Magnitude.product_zero] at bound
  have zeroRank : Magnitude.zero.rank = 0 := rfl
  have left := vanishes magnitude
  have right := vanishes magnitude'
  cases negative <;> cases negative' <;>
    simp only [position, if_true, if_false, Bool.false_eq_true] at le ⊢ <;> omega

end Binary64

end CognitiveKernel
