/-
Module: CognitiveKernel.Proofs.Kernel.Rigor
Purpose: How the weights of a new kernel and the text of these weights follow its rigor.
Main exports: isNearest_baseIntegrity, scaledIntegrity_bounds, IntegrityReading,
  Kernel.IntegrityAt, Kernel.integrityAt_new, Kernel.FollowsRigor, Kernel.new_follows_rigor
-/
import CognitiveKernel.Proofs.Binary64.Product
import CognitiveKernel.Proofs.Kernel.WeightText

namespace CognitiveKernel

/-! ### Scaling the base weight -/

theorem isFinite_baseIntegrity : baseIntegrity.isFinite = true := by decide +kernel

/-- The base weight is the number nearest to three tenths. -/
theorem isNearest_baseIntegrity : baseIntegrity.IsNearest (3 / 10) := by
  have nearest := Binary64.isNearest_ofDecimal isFinite_baseIntegrity
  have exact : signed false (Decimal.value ⟨3, -1⟩) = 3 / 10 := by
    norm_num [signed, Decimal.value]
  rwa [exact] at nearest

/-- Scaling by numbers of the unit interval keeps the order and does not exceed the base weight. -/
theorem scaledIntegrity_bounds {lower upper : Binary64} {x y : ℚ}
    (lowerValue : lower.value? = some x) (upperValue : upper.value? = some y)
    (nonneg : 0 ≤ x) (order : x ≤ y) (small : y ≤ 1) :
    ∃ base weight weight', baseIntegrity.value? = some base ∧
      (baseIntegrity.product lower).value? = some weight ∧
      (baseIntegrity.product upper).value? = some weight' ∧
      0 ≤ weight ∧ weight ≤ weight' ∧ weight' ≤ base := by
  obtain ⟨base, baseValue, -⟩ := isNearest_baseIntegrity
  have scaled {left right : Binary64} {a b : ℚ} (leftValue : left.value? = some a)
      (rightValue : right.value? = some b) (le : a ≤ b) :
      (baseIntegrity.product left).le (baseIntegrity.product right) = true :=
    Binary64.product_mono isFinite_baseIntegrity leftValue rightValue le
  have atZero : (baseIntegrity.product .zero).value? = some 0 := by
    have vanishes : baseIntegrity.product .zero = .zero := by decide +kernel
    rw [vanishes, Binary64.value?_zero]
  have atOne : (baseIntegrity.product .one).value? = some base := by
    rw [Binary64.product_one isFinite_baseIntegrity, baseValue]
  obtain ⟨weight, weightValue, above, -⟩ := (Binary64.between_iff atZero atOne).mp
    ⟨scaled Binary64.value?_zero lowerValue nonneg,
      scaled lowerValue Binary64.value?_one (order.trans small)⟩
  obtain ⟨weight', weightValue', -, below⟩ := (Binary64.between_iff atZero atOne).mp
    ⟨scaled Binary64.value?_zero upperValue (nonneg.trans order),
      scaled upperValue Binary64.value?_one small⟩
  have between : weight ≤ weight' :=
    (Binary64.le_iff_value_le weightValue weightValue').mp (scaled lowerValue upperValue order)
  exact ⟨base, weight, weight', baseValue, weightValue, weightValue', above, between, below⟩

/-- Numbers between zero and the base weight are shown as numbers between 0.00 and 0.30. -/
theorem shown_bounds {lower upper : Binary64} {base weight weight' shown shown' : ℚ}
    (baseValue : baseIntegrity.value? = some base) (lowerValue : lower.value? = some weight)
    (upperValue : upper.value? = some weight')
    (weights : 0 ≤ weight ∧ weight ≤ weight' ∧ weight' ≤ base)
    (reads : Decimal.signedValue? lower.twoDecimals = some shown)
    (reads' : Decimal.signedValue? upper.twoDecimals = some shown') :
    0 ≤ shown ∧ shown ≤ shown' ∧ shown' ≤ 3 / 10 := by
  obtain ⟨nonneg, order, small⟩ := weights
  have zeroShown : Decimal.signedValue? Binary64.zero.twoDecimals = some 0 := by decide +kernel
  have baseShown : Decimal.signedValue? baseIntegrity.twoDecimals = some (3 / 10) := by
    decide +kernel
  refine ⟨?_, ?_, ?_⟩
  · exact Binary64.signedValue?_twoDecimals_mono Binary64.value?_zero lowerValue nonneg zeroShown
      reads
  · exact Binary64.signedValue?_twoDecimals_mono lowerValue upperValue order reads reads'
  · exact Binary64.signedValue?_twoDecimals_mono upperValue baseValue small reads' baseShown

/-- What is read off a kernel that depends on its rigor: the rigor itself, the weight of Integrity
and the number that the text of the weights gives for it. -/
structure IntegrityReading where
  rigor : ℚ
  weight : ℚ
  shown : ℚ

/-- Readings in order, within the unit interval and below the base weight. -/
structure IntegrityReading.Ordered (base : ℚ) (lower upper : IntegrityReading) : Prop where
  rigor : 0 ≤ lower.rigor ∧ lower.rigor ≤ upper.rigor ∧ upper.rigor ≤ 1
  weight : 0 ≤ lower.weight ∧ lower.weight ≤ upper.weight ∧ upper.weight ≤ base
  shown : 0 ≤ lower.shown ∧ lower.shown ≤ upper.shown ∧ upper.shown ≤ 3 / 10

namespace Kernel

/-! ### What a new kernel shows -/

theorem vector?_new (mode : Mode) (rigor : Binary64) (axis : Axis) :
    (new mode rigor).vector? axis.name =
      some (axis.vector (standardWeight rigor.clampToUnit axis)) := by
  have member : axis.vector (standardWeight rigor.clampToUnit axis) ∈ (new mode rigor).vectors :=
    List.mem_map_of_mem axis.mem_all
  exact vector?_of_mem (wellFormed_new mode rigor).nodup_names member

theorem splitOn_fill_new (mode : Mode) (rigor : Binary64) :
    Text.splitOn ", " ((new mode rigor).fill weightsToken) =
      Axis.all.map fun axis => (standardWeight rigor.clampToUnit axis).twoDecimals := by
  have wellFormed := wellFormed_new mode rigor
  rw [wellFormed.fill_weightsToken, wellFormed.splitOn_weightText, new, standardBasis,
    List.map_map]
  rfl

/-- A kernel gives a certain reading, and its Integrity weight is the base weight times the rigor
after rounding. -/
structure IntegrityAt (base : ℚ) (reading : IntegrityReading) (kernel : Kernel) : Prop where
  rigor_eq : kernel.rigor.value? = some reading.rigor
  weight_eq : ∃ vector, kernel.vector? "Integrity" = some vector ∧
    vector.weight.value? = some reading.weight ∧ vector.weight.IsNearest (base * reading.rigor)
  shown_eq : ∃ field, (Text.splitOn ", " (kernel.fill weightsToken))[1]? = some field ∧
    Decimal.signedValue? field = some reading.shown

theorem integrityAt_new (mode : Mode) {rigor : Binary64} {base clamped weight shown : ℚ}
    (baseValue : baseIntegrity.value? = some base)
    (clampedValue : rigor.clampToUnit.value? = some clamped)
    (weightValue : (baseIntegrity.product rigor.clampToUnit).value? = some weight)
    (reads : Decimal.signedValue? (baseIntegrity.product rigor.clampToUnit).twoDecimals =
      some shown) :
    (new mode rigor).IntegrityAt base ⟨clamped, weight, shown⟩ where
  rigor_eq := clampedValue
  weight_eq := by
    have finite : (baseIntegrity.product rigor.clampToUnit).isFinite = true := by
      obtain ⟨negative, magnitude, product, finite, -⟩ :=
        Binary64.value?_eq_some_iff.mp weightValue
      rw [product]
      exact finite
    exact ⟨_, vector?_new mode rigor .integrity, weightValue,
      Binary64.isNearest_product baseValue clampedValue finite⟩
  shown_eq := by
    refine ⟨(baseIntegrity.product rigor.clampToUnit).twoDecimals, ?_, reads⟩
    rw [splitOn_fill_new]
    rfl

/-- How new kernels of a mode depend on their rigor. -/
structure FollowsRigor (mode : Mode) (least greatest : Binary64) : Prop where
  base_nearest : baseIntegrity.IsNearest (3 / 10)
  integrity : ∃ base lower upper, baseIntegrity.value? = some base ∧
    (new mode least).IntegrityAt base lower ∧ (new mode greatest).IntegrityAt base upper ∧
    lower.Ordered base upper
  others : ∀ axis : Axis, axis ≠ .integrity →
    ∃ vector, (new mode least).vector? axis.name = some vector ∧
      (new mode greatest).vector? axis.name = some vector
  unreal : ∀ rigor : Binary64, rigor.isNaN = true → new mode rigor = new mode .one

/-- Rigors in order give kernels whose rigors, Integrity weights and Integrity fields are in order,
between zero and one and between zero and the base weight, which is the number nearest to three
tenths. The other weights do not depend on the rigor, and NaN counts as one. -/
theorem new_follows_rigor (mode : Mode) {least greatest : Binary64}
    (le : least.le greatest = true) : FollowsRigor mode least greatest where
  base_nearest := isNearest_baseIntegrity
  integrity := by
    obtain ⟨rigor, rigorValue, nonneg, -⟩ :=
      Binary64.inUnitInterval_iff.mp (Binary64.inUnitInterval_clampToUnit least)
    obtain ⟨rigor', rigorValue', -, small⟩ :=
      Binary64.inUnitInterval_iff.mp (Binary64.inUnitInterval_clampToUnit greatest)
    have order : rigor ≤ rigor' :=
      (Binary64.le_iff_value_le rigorValue rigorValue').mp (Binary64.clampToUnit_mono le)
    obtain ⟨base, weight, weight', baseValue, weightValue, weightValue', weights⟩ :=
      scaledIntegrity_bounds rigorValue rigorValue' nonneg order small
    obtain ⟨shown, reads⟩ := Binary64.exists_signedValue?_twoDecimals weightValue
    obtain ⟨shown', reads'⟩ := Binary64.exists_signedValue?_twoDecimals weightValue'
    refine ⟨base, ⟨rigor, weight, shown⟩, ⟨rigor', weight', shown'⟩, baseValue, ?_, ?_, ?_⟩
    · exact integrityAt_new mode baseValue rigorValue weightValue reads
    · exact integrityAt_new mode baseValue rigorValue' weightValue' reads'
    · exact {
        rigor := ⟨nonneg, order, small⟩
        weight := weights
        shown := shown_bounds baseValue weightValue weightValue' weights reads reads' }
  others := by
    intro axis other
    refine ⟨_, vector?_new mode least axis, ?_⟩
    rw [vector?_new]
    cases axis with
    | integrity => exact absurd rfl other
    | _ => rfl
  unreal := by
    intro rigor unreal
    cases rigor with
    | nan bits => rfl
    | number => cases unreal

/-- The extremes: a negative zero, whose field is `-0.00`, and infinity. -/
theorem new_follows_rigor_extremes :
    let negativeZero : Binary64 := .number true Magnitude.zero
    negativeZero.le .infinity = true ∧
      ∃ base lower upper, baseIntegrity.value? = some base ∧
        (new .analysis negativeZero).IntegrityAt base lower ∧ lower.rigor = 0 ∧
        (new .analysis .infinity).IntegrityAt base upper ∧ upper.rigor = 1 ∧
        lower.Ordered base upper := by
  intro negativeZero
  have le : negativeZero.le .infinity = true := by decide
  obtain ⟨base, lower, upper, baseValue, least, greatest, ordered⟩ :=
    (new_follows_rigor .analysis le).integrity
  have clamped : (new .analysis negativeZero).rigor = negativeZero := by decide
  have clamped' : (new .analysis .infinity).rigor = .one := by decide
  have none : lower.rigor = 0 := by
    have valueEq := least.rigor_eq
    rw [clamped, Binary64.value?, if_pos (by decide), Magnitude.value_zero] at valueEq
    exact (Option.some.inj valueEq).symm
  have full : upper.rigor = 1 := by
    have valueEq := greatest.rigor_eq
    rw [clamped', Binary64.value?_one] at valueEq
    exact (Option.some.inj valueEq).symm
  exact ⟨le, base, lower, upper, baseValue, least, none, greatest, full, ordered⟩

end Kernel

end CognitiveKernel
