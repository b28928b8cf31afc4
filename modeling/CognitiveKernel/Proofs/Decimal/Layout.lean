/-
Module: CognitiveKernel.Proofs.Decimal.Layout
Purpose: Every layout writes a positive decimal number as a numeral of the same value.
Main exports: Layout.Regular, Layout.numeral, Layout.write_eq_text, Layout.value_numeral,
  Layout.leadingZeroAlone_numeral
-/
import CognitiveKernel.Decimal.Layout
import CognitiveKernel.Proofs.Decimal.Numeral
import CognitiveKernel.Proofs.Decimal.Value

namespace CognitiveKernel.Decimal

/-! ### Padding with zeros -/

theorem ofDigits_replicate_append (zeros : Nat) (ds : List Char) :
    ofDigits (List.replicate zeros '0' ++ ds) = ofDigits ds := by
  induction zeros with
  | zero => rfl
  | succ zeros ih =>
      rw [List.replicate_succ, List.cons_append, ← ih]
      rfl

theorem ofDigits_append_replicate (ds : List Char) (zeros : Nat) :
    ofDigits (ds ++ List.replicate zeros '0') = ofDigits ds * 10 ^ zeros := by
  induction zeros with
  | zero => simp
  | succ zeros ih =>
      have zero : digitValue '0' = 0 := by decide
      rw [List.replicate_succ', ← List.append_assoc, ofDigits_append_singleton, ih, zero,
        Nat.pow_succ]
      ring

theorem isDigit_of_mem_replicate {zeros : Nat} {c : Char} (h : c ∈ List.replicate zeros '0') :
    isDigit c = true := by
  rw [List.eq_of_mem_replicate h]
  decide

namespace Layout

/-- Layouts whose whole numbers end without a point or in `.0` and whose exponents may have a
plus sign. -/
structure Regular (layout : Layout) : Prop where
  suffix : layout.wholeSuffix = [] ∨ layout.wholeSuffix = ['.', '0']
  sign : layout.exponentSign = [] ∨ layout.exponentSign = ['+']

/-- The digits behind the point of a whole number. -/
def wholeFraction (layout : Layout) : List Char :=
  layout.wholeSuffix.drop 1

/-- The numeral of a row of digits in positional notation. -/
def positionalNumeral (layout : Layout) (ds : List Char) (point : Int) : Numeral :=
  if point ≤ 0 then ⟨['0'], List.replicate (-point).toNat '0' ++ ds, none⟩
  else if ds.length ≤ point.toNat then
    ⟨ds ++ List.replicate (point.toNat - ds.length) '0', layout.wholeFraction, none⟩
  else ⟨ds.take point.toNat, ds.drop point.toNat, none⟩

/-- The numeral that a layout writes for a decimal number. -/
def numeral (layout : Layout) (decimal : Decimal) : Numeral :=
  let ds := digits decimal.coefficient
  let point := ds.length + decimal.exponent
  if layout.isPositional point then layout.positionalNumeral ds point
  else ⟨ds.take 1, ds.drop 1, some (point - 1)⟩

variable {layout : Layout}

theorem fractionText_wholeFraction (regular : layout.Regular) (whole : List Char) :
    (Numeral.mk whole layout.wholeFraction none).fractionText = layout.wholeSuffix := by
  rw [Numeral.fractionText, wholeFraction]
  rcases regular.suffix with suffix | suffix
  · rw [suffix]
    rfl
  · rw [suffix]
    rfl

theorem isDigit_of_mem_wholeFraction (regular : layout.Regular) (c : Char)
    (member : c ∈ layout.wholeFraction) : isDigit c = true := by
  rw [wholeFraction] at member
  rcases regular.suffix with suffix | suffix
  · simp [suffix] at member
  · simp only [suffix, List.drop_succ_cons, List.drop_zero, List.mem_singleton] at member
    rw [member]
    decide

theorem writePositional_eq_text (regular : layout.Regular) {ds : List Char} (nonempty : ds ≠ [])
    (point : Int) :
    layout.writePositional ds point =
      (layout.positionalNumeral ds point).text layout.exponentSign := by
  rw [writePositional, positionalNumeral]
  split
  · simp [Numeral.text, Numeral.fractionText, Numeral.scaleText, nonempty]
  · split
    · rw [Numeral.text, fractionText_wholeFraction regular, Numeral.scaleText, List.append_nil]
    · rename_i inside
      have fraction : ds.drop point.toNat ≠ [] := by
        rw [ne_eq, List.drop_eq_nil_iff]
        exact inside
      simp [Numeral.text, Numeral.fractionText, Numeral.scaleText, fraction]

theorem write_eq_text (regular : layout.Regular) (decimal : Decimal) :
    layout.write decimal = (layout.numeral decimal).text layout.exponentSign := by
  simp only [write, numeral]
  split
  · exact writePositional_eq_text regular (digits_ne_nil _) _
  · rw [writeExponential, Numeral.text]
    rfl

theorem wellFormed_numeral (regular : layout.Regular) (decimal : Decimal) :
    (layout.numeral decimal).WellFormed := by
  have row : ∀ c ∈ digits decimal.coefficient, isDigit c = true := fun _ => isDigit_of_mem_digits
  have nonempty := digits_ne_nil decimal.coefficient
  simp only [numeral, positionalNumeral]
  generalize digits decimal.coefficient = ds at row nonempty ⊢
  generalize (ds.length : Int) + decimal.exponent = point
  have rowTake (count : Nat) : ∀ c ∈ ds.take count, isDigit c = true := fun c member =>
    row c (List.mem_of_mem_take member)
  have rowDrop (count : Nat) : ∀ c ∈ ds.drop count, isDigit c = true := fun c member =>
    row c (List.mem_of_mem_drop member)
  split
  · split
    · refine ⟨by simp, by simp [isDigit], fun c member => ?_⟩
      rcases List.mem_append.mp member with zero | digit
      · exact isDigit_of_mem_replicate zero
      · exact row c digit
    · split
      · refine ⟨by simp [nonempty], fun c member => ?_, fun c member => ?_⟩
        · rcases List.mem_append.mp member with digit | zero
          · exact row c digit
          · exact isDigit_of_mem_replicate zero
        · exact isDigit_of_mem_wholeFraction regular c member
      · exact ⟨by simp [nonempty]; omega, rowTake _, rowDrop _⟩
  · exact ⟨by simp [nonempty], rowTake _, rowDrop _⟩

/-- The zeros that pad a whole number, with the one behind its point, are made up for by the
exponent. -/
theorem value_whole (regular : layout.Regular) (ds : List Char) (zeros : Nat) :
    (Numeral.mk (ds ++ List.replicate zeros '0') layout.wholeFraction none).decimal.value =
      value ⟨ofDigits ds, zeros⟩ := by
  have padded (zeros : Nat) (exponent : Int) :
      value ⟨ofDigits (ds ++ List.replicate zeros '0'), exponent⟩ =
        value ⟨ofDigits ds, exponent + zeros⟩ := by
    rw [ofDigits_append_replicate, value_shift]
  rw [wholeFraction]
  rcases regular.suffix with suffix | suffix
  · have whole := padded zeros 0
    rw [Int.zero_add] at whole
    simpa [Numeral.decimal, suffix] using whole
  · have whole := padded (zeros + 1) (-1)
    have exponent : -1 + ((zeros + 1 : Nat) : Int) = zeros := by omega
    rw [exponent, List.replicate_succ', ← List.append_assoc] at whole
    simpa [Numeral.decimal, suffix] using whole

theorem decimal_split (ds : List Char) (count : Nat) (exponent : Option Int) :
    (Numeral.mk (ds.take count) (ds.drop count) exponent).decimal =
      ⟨ofDigits ds, exponent.getD 0 - (ds.length - count : Nat)⟩ := by
  rw [Numeral.decimal, List.take_append_drop, List.length_drop]

theorem value_positionalNumeral (regular : layout.Regular) (ds : List Char) (point : Int) :
    (layout.positionalNumeral ds point).decimal.value =
      value ⟨ofDigits ds, point - ds.length⟩ := by
  rw [positionalNumeral]
  split
  · rename_i below
    have digits : ofDigits (['0'] ++ (List.replicate (-point).toNat '0' ++ ds)) = ofDigits ds :=
      ofDigits_replicate_append ((-point).toNat + 1) ds
    have exponent : (0 : Int) - ((-point).toNat + ds.length : Nat) = point - ds.length := by omega
    rw [Numeral.decimal, digits, List.length_append, List.length_replicate, Option.getD_none,
      exponent]
  · split
    · have exponent : ((point.toNat - ds.length : Nat) : Int) = point - ds.length := by omega
      rw [value_whole regular, exponent]
    · have exponent : (0 : Int) - (ds.length - point.toNat : Nat) = point - ds.length := by omega
      rw [decimal_split, Option.getD_none, exponent]

/-- What a layout writes denotes the number that was to be written. -/
theorem value_numeral (regular : layout.Regular) (decimal : Decimal) :
    (layout.numeral decimal).decimal.value = decimal.value := by
  have coefficient := ofDigits_digits decimal.coefficient
  have long : 0 < (digits decimal.coefficient).length :=
    List.length_pos_iff.mpr (digits_ne_nil decimal.coefficient)
  simp only [numeral]
  split
  · have exponent (length : Nat) :
        (length : Int) + decimal.exponent - length = decimal.exponent := by omega
    rw [value_positionalNumeral regular, coefficient, exponent]
  · rw [decimal_split, coefficient, Option.getD_some]
    congr 2
    omega

/-! ### Leading zeros -/

theorem leadingZeroAlone_numeral {decimal : Decimal} (nonzero : decimal.coefficient ≠ 0) :
    (layout.numeral decimal).LeadingZeroAlone := by
  have first := head?_digits_ne_zero nonzero
  obtain ⟨c, ds, equation, _⟩ := exists_digits_eq_cons decimal.coefficient
  simp only [numeral, positionalNumeral, Numeral.LeadingZeroAlone, equation] at first ⊢
  generalize ((c :: ds).length : Int) + decimal.exponent = point
  split
  · split
    · exact fun _ => rfl
    · split
      · intro zero
        exact absurd zero first
      · rename_i after _
        intro zero
        have several : point.toNat = (point.toNat - 1) + 1 := by omega
        rw [several, List.take_succ_cons] at zero
        exact absurd zero first
  · exact fun _ => rfl

end Layout

end CognitiveKernel.Decimal
