/-
Module: CognitiveKernel.Proofs.Binary64.TwoDecimals
Purpose: Numbers with two decimals: their shape, their distance to the exact number, their order.
Main exports: Decimal.signedValue?, Binary64.TwoDecimals, Binary64.twoDecimals_shows,
  Binary64.signedValue?_twoDecimals, Magnitude.hundredths_mono
-/
import CognitiveKernel.Proofs.Binary64.Display
import CognitiveKernel.Proofs.Binary64.Value

namespace CognitiveKernel

namespace Decimal

/-- The rational number that a numeral with an optional minus sign denotes. -/
def signedValue? (text : String) : Option ℚ :=
  match text.toList with
  | '-' :: rest => (parse? rest).map fun decimal => -decimal.value
  | unsigned => (parse? unsigned).map value

theorem signedValue?_ofList {negative : Bool} {unsigned : List Char} {c : Char}
    {more : List Char} (start : unsigned = c :: more) (digit : isDigit c = true)
    {decimal : Decimal} (read : parse? unsigned = some decimal) :
    signedValue? (String.ofList ((if negative then ['-'] else []) ++ unsigned)) =
      some (signed negative decimal.value) := by
  subst start
  have notMinus : c ≠ '-' := isDigit_ne digit (by decide)
  rw [signedValue?, String.toList_ofList]
  cases negative with
  | false => simp [notMinus, read, signed]
  | true => simp [read, signed]

/-! ### Hundredths as numerals -/

/-- The numeral of a number of hundredths. -/
def hundredthsNumeral (hundredths : Nat) : Numeral :=
  ⟨digits (hundredths / 100),
    [digitChar (hundredths / 10 % 10), digitChar (hundredths % 10)], none⟩

theorem isDigit_digitChar_mod (number : Nat) : isDigit (digitChar (number % 10)) = true :=
  isDigit_digitChar (Nat.mod_lt _ (by decide))

theorem digitValue_digitChar_mod (number : Nat) : digitValue (digitChar (number % 10)) =
    number % 10 :=
  digitValue_digitChar (Nat.mod_lt _ (by decide))

variable (hundredths : Nat)

theorem writeHundredths_eq_text :
    writeHundredths hundredths = (hundredthsNumeral hundredths).text [] := by
  simp [writeHundredths, hundredthsNumeral, Numeral.text, Numeral.fractionText, Numeral.scaleText]

theorem wellFormed_hundredthsNumeral : (hundredthsNumeral hundredths).WellFormed where
  whole_ne_nil := digits_ne_nil _
  whole_row := fun _ member => isDigit_of_mem_digits member
  fraction_row := by simp [hundredthsNumeral, isDigit_digitChar_mod]

/-- Only the number zero is written with a zero in front. -/
theorem leadingZeroAlone_hundredthsNumeral : (hundredthsNumeral hundredths).LeadingZeroAlone := by
  intro zeroFirst
  have zero : hundredths / 100 = 0 := by
    by_contra nonzero
    exact head?_digits_ne_zero nonzero zeroFirst
  rw [hundredthsNumeral, zero, digits, if_pos (by decide)]
  rfl

theorem decimal_hundredthsNumeral : (hundredthsNumeral hundredths).decimal = ⟨hundredths, -2⟩ := by
  have split : digits (hundredths / 100) ++
      [digitChar (hundredths / 10 % 10), digitChar (hundredths % 10)] =
        digits (hundredths / 100) ++ [digitChar (hundredths / 10 % 10)] ++
          [digitChar (hundredths % 10)] := by
    rw [List.append_assoc, List.singleton_append]
  have coefficient : ofDigits (digits (hundredths / 100) ++
      [digitChar (hundredths / 10 % 10), digitChar (hundredths % 10)]) = hundredths := by
    rw [split, ofDigits_append_singleton, ofDigits_append_singleton, ofDigits_digits,
      digitValue_digitChar_mod, digitValue_digitChar_mod]
    omega
  rw [Numeral.decimal, hundredthsNumeral, coefficient]
  rfl

theorem parse?_writeHundredths : parse? (writeHundredths hundredths) = some ⟨hundredths, -2⟩ := by
  rw [writeHundredths_eq_text,
    Numeral.parse?_text (Or.inl rfl) (wellFormed_hundredthsNumeral hundredths),
    decimal_hundredthsNumeral]

theorem value_hundredths : value ⟨hundredths, -2⟩ = (hundredths : ℚ) / 100 := by
  rw [value]
  norm_num
  ring

end Decimal

/-! ### Rounding to hundredths -/

namespace Magnitude

/-- The middles between which a number of hundredths lies, and that a middle is rounded to the even
one of its neighbours. -/
theorem hundredths_bounds (magnitude : Magnitude) :
    2 * (magnitude.units * 100) ≤ (2 * magnitude.hundredths + 1) * unitsPerOne ∧
      2 * magnitude.hundredths * unitsPerOne ≤ 2 * (magnitude.units * 100) + unitsPerOne ∧
      (2 * (magnitude.units * 100) = (2 * magnitude.hundredths + 1) * unitsPerOne ∨
        2 * magnitude.hundredths * unitsPerOne = 2 * (magnitude.units * 100) + unitsPerOne →
          magnitude.hundredths % 2 = 0) := by
  have positive := unitsPerOne_pos
  simp only [hundredths]
  generalize magnitude.units * 100 = scaled
  generalize unitsPerOne = unit at positive ⊢
  have division := Nat.div_add_mod scaled unit
  have remainder := Nat.mod_lt scaled positive
  rw [Nat.mul_comm] at division
  generalize scaled / unit = below at division ⊢
  generalize scaled % unit = rest at division remainder
  simp only [Nat.add_mul, Nat.mul_assoc]
  split
  · omega
  · split
    · simp only [Nat.add_mul]
      omega
    · rcases Nat.mod_two_eq_zero_or_one below with even | odd
      · rw [even, Nat.add_zero]
        omega
      · rw [odd, Nat.add_mul]
        omega

/-- Two decimals are within half a hundredth of the exact size, and even if they are that far. -/
theorem hundredths_near (magnitude : Magnitude) :
    |(magnitude.hundredths : ℚ) / 100 - magnitude.value| ≤ 1 / 200 ∧
      (|(magnitude.hundredths : ℚ) / 100 - magnitude.value| = 1 / 200 →
        magnitude.hundredths % 2 = 0) := by
  obtain ⟨upper, lower, even⟩ := magnitude.hundredths_bounds
  have unit := cast_unitsPerOne_pos
  have size : magnitude.value * unitsPerOne = magnitude.units := by
    rw [value]
    field_simp
  have upperCast : 2 * ((magnitude.units : ℚ) * 100) ≤
      (2 * magnitude.hundredths + 1) * unitsPerOne := by exact_mod_cast upper
  have lowerCast : 2 * (magnitude.hundredths : ℚ) * unitsPerOne ≤
      2 * (magnitude.units * 100) + unitsPerOne := by exact_mod_cast lower
  rw [← size] at upperCast lowerCast
  constructor
  · rw [abs_le]
    constructor
    · have scaled : magnitude.value * unitsPerOne ≤
          ((magnitude.hundredths : ℚ) / 100 + 1 / 200) * unitsPerOne := by linarith
      have bound := le_of_mul_le_mul_right scaled unit
      linarith
    · have scaled : (magnitude.hundredths : ℚ) / 100 * unitsPerOne ≤
          (magnitude.value + 1 / 200) * unitsPerOne := by linarith
      have bound := le_of_mul_le_mul_right scaled unit
      linarith
  · intro tie
    apply even
    rcases (abs_eq (by norm_num)).mp tie with above | below
    · right
      have exact : magnitude.value = (magnitude.hundredths : ℚ) / 100 - 1 / 200 := by linarith
      have cast : 2 * (magnitude.hundredths : ℚ) * unitsPerOne =
          2 * (magnitude.units * 100) + unitsPerOne := by
        rw [← size, exact]
        ring
      exact_mod_cast cast
    · left
      have exact : magnitude.value = (magnitude.hundredths : ℚ) / 100 + 1 / 200 := by linarith
      have cast : 2 * ((magnitude.units : ℚ) * 100) =
          (2 * magnitude.hundredths + 1) * unitsPerOne := by
        rw [← size, exact]
        ring
      exact_mod_cast cast

theorem hundredths_zero : zero.hundredths = 0 := by decide +kernel

theorem hundredths_mono {left right : Magnitude} (le : left.rank ≤ right.rank) :
    left.hundredths ≤ right.hundredths := by
  have units : left.units ≤ right.units := unitsOfRank_strictMono.monotone le
  by_contra above
  obtain ⟨-, lower, -⟩ := left.hundredths_bounds
  obtain ⟨upper, -, -⟩ := right.hundredths_bounds
  have step : (2 * right.hundredths + 1) * unitsPerOne + unitsPerOne ≤
      2 * left.hundredths * unitsPerOne := by
    rw [← Nat.succ_mul]
    exact Nat.mul_le_mul_right _ (by omega)
  have same : left.units = right.units := by omega
  rw [hundredths, hundredths, same] at above
  exact above (le_refl _)

end Magnitude

/-! ### Numbers with two decimals -/

namespace Binary64

open Decimal (isNumeralChar)
open Text (Lacks)

/-- What a number looks like with two decimals: NaN and the infinities are words, and a real number
is shown by an optional sign, digits without superfluous zeros, a point and two more digits. What
these denote is no farther from the number than half a hundredth, and in the middle between two
hundredths the last digit is even. -/
inductive TwoDecimals : Binary64 → String → Prop where
  | nan (bits : NaN) : TwoDecimals (.nan bits) "NaN"
  | infinity : TwoDecimals .infinity "inf"
  | negativeInfinity : TwoDecimals .negativeInfinity "-inf"
  | real {negative : Bool} {magnitude : Magnitude} {text : String} {whole : List Char}
      {tenths hundredths : Char} {exact shown : ℚ}
      (value : (number negative magnitude).value? = some exact)
      (shape : text.toList =
        (if negative then ['-'] else []) ++ (whole ++ ['.', tenths, hundredths]))
      (row : whole ≠ [] ∧ ∀ c ∈ whole ++ [tenths, hundredths], Decimal.isDigit c = true)
      (leading : whole.head? = some '0' → whole.length = 1)
      (reads : Decimal.signedValue? text = some shown)
      (near : |shown - exact| ≤ 1 / 200)
      (tie : |shown - exact| = 1 / 200 → Decimal.digitValue hundredths % 2 = 0) :
      TwoDecimals (number negative magnitude) text

theorem signedValue?_twoDecimals {negative : Bool} {magnitude : Magnitude}
    (finite : magnitude.isFinite = true) :
    Decimal.signedValue? (number negative magnitude).twoDecimals =
      some (signed negative ((magnitude.hundredths : ℚ) / 100)) := by
  obtain ⟨c, more, first, digit⟩ := Decimal.exists_digits_eq_cons (magnitude.hundredths / 100)
  have start : Decimal.writeHundredths magnitude.hundredths = c :: (more ++
      ['.', Decimal.digitChar (magnitude.hundredths / 10 % 10),
        Decimal.digitChar (magnitude.hundredths % 10)]) := by
    rw [Decimal.writeHundredths, first, List.cons_append]
  have read := Decimal.parse?_writeHundredths magnitude.hundredths
  rw [twoDecimals, writeWith, if_pos finite, Decimal.signedValue?_ofList start digit read,
    Decimal.value_hundredths]

theorem exists_signedValue?_twoDecimals {value : Binary64} {x : ℚ}
    (valueEq : value.value? = some x) :
    ∃ shown, Decimal.signedValue? value.twoDecimals = some shown := by
  obtain ⟨negative, magnitude, rfl, finite, -⟩ := value?_eq_some_iff.mp valueEq
  exact ⟨_, signedValue?_twoDecimals finite⟩

/-- What two decimals denote keeps the order. -/
theorem signedValue?_twoDecimals_mono {left right : Binary64} {x y shown shown' : ℚ}
    (leftValue : left.value? = some x) (rightValue : right.value? = some y) (le : x ≤ y)
    (reads : Decimal.signedValue? left.twoDecimals = some shown)
    (reads' : Decimal.signedValue? right.twoDecimals = some shown') : shown ≤ shown' := by
  obtain ⟨negative, magnitude, rfl, finite, rfl⟩ := value?_eq_some_iff.mp leftValue
  obtain ⟨negative', magnitude', rfl, finite', rfl⟩ := value?_eq_some_iff.mp rightValue
  cases (signedValue?_twoDecimals finite).symm.trans reads
  cases (signedValue?_twoDecimals finite').symm.trans reads'
  have order {lower upper : Magnitude} (values : lower.value ≤ upper.value) :
      (lower.hundredths : ℚ) / 100 ≤ upper.hundredths / 100 := by
    have hundredths := Magnitude.hundredths_mono (Magnitude.value_le_value.mp values)
    have cast : (lower.hundredths : ℚ) ≤ upper.hundredths := Nat.cast_le.mpr hundredths
    linarith
  have nonneg (other : Magnitude) : 0 ≤ (other.hundredths : ℚ) / 100 :=
    div_nonneg (Nat.cast_nonneg _) (by norm_num)
  have sizes := magnitude.value_nonneg
  have sizes' := magnitude'.value_nonneg
  cases negative <;> cases negative' <;>
    simp only [signed, if_true, if_false, Bool.false_eq_true] at le ⊢
  · exact order le
  · -- Of these two only zeros can be in order.
    have vanishes : (Magnitude.zero.hundredths : ℚ) / 100 = 0 := by
      rw [Magnitude.hundredths_zero, Nat.cast_zero, zero_div]
    have small : magnitude.value ≤ Magnitude.zero.value := by
      rw [Magnitude.value_zero]
      linarith
    have small' : magnitude'.value ≤ Magnitude.zero.value := by
      rw [Magnitude.value_zero]
      linarith
    linarith [order small, order small']
  · linarith [nonneg magnitude, nonneg magnitude']
  · exact neg_le_neg (order (neg_le_neg_iff.mp le))

theorem lacks_twoDecimals {c : Char} (notNumeral : isNumeralChar c = false)
    (notWord : c ∉ ['N', 'a', 'i', 'n', 'f']) (value : Binary64) : Lacks c value.twoDecimals := by
  apply lacks_writeWith notNumeral notWord
  intro magnitude d member
  rw [Decimal.writeHundredths_eq_text] at member
  exact Numeral.isNumeralChar_of_mem_text (Decimal.wellFormed_hundredthsNumeral _) member

/-- Every number is shown as it should be with two decimals. -/
theorem twoDecimals_shows (value : Binary64) : TwoDecimals value value.twoDecimals := by
  cases value with
  | nan bits => exact .nan bits
  | number negative magnitude =>
      cases finite : magnitude.isFinite with
      | false =>
          rw [magnitude.eq_infinity finite]
          cases negative with
          | false => exact .infinity
          | true => exact .negativeInfinity
      | true =>
          have wellFormed := Decimal.wellFormed_hundredthsNumeral magnitude.hundredths
          obtain ⟨near, even⟩ := magnitude.hundredths_near
          have exact : (number negative magnitude).value? =
              some (signed negative magnitude.value) := by rw [value?, if_pos finite]
          have shape : (number negative magnitude).twoDecimals.toList =
              (if negative then ['-'] else []) ++ (Decimal.digits (magnitude.hundredths / 100) ++
                ['.', Decimal.digitChar (magnitude.hundredths / 10 % 10),
                  Decimal.digitChar (magnitude.hundredths % 10)]) := by
            rw [twoDecimals, String.toList_ofList, writeWith, if_pos finite]
            rfl
          refine .real exact shape ⟨wellFormed.whole_ne_nil, ?_⟩
            (Decimal.leadingZeroAlone_hundredthsNumeral magnitude.hundredths)
            (signedValue?_twoDecimals finite) ?_ ?_
          · exact List.forall_mem_append.mpr ⟨wellFormed.whole_row, wellFormed.fraction_row⟩
          · rw [abs_signed_sub_signed]
            exact near
          · rw [abs_signed_sub_signed, Decimal.digitValue_digitChar_mod]
            intro middle
            have last := even middle
            omega

end Binary64

end CognitiveKernel
