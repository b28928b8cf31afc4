/-
Module: CognitiveKernel.Proofs.Decimal.Numeral
Purpose: Numerals as rows of digits and an exponent, and how they are read.
Main exports: Numeral, Numeral.text, Numeral.parse?_text, Decimal.spanDigits_append
-/
import CognitiveKernel.Decimal.Numeral

namespace CognitiveKernel

namespace Decimal

/-! ### Rows of digits -/

/-- A text whose first character does not continue a row of digits. -/
def DigitsEnd (text : List Char) : Prop :=
  ∀ c ∈ text.head?, isDigit c = false

theorem spanDigits_append {ds rest : List Char} (row : ∀ c ∈ ds, isDigit c = true)
    (stop : DigitsEnd rest) : spanDigits (ds ++ rest) = (ds, rest) := by
  have before : rest.takeWhile isDigit = [] := by
    cases rest with
    | nil => rfl
    | cons c rest => simp [stop c rfl]
  have behind : rest.dropWhile isDigit = rest := by
    cases rest with
    | nil => rfl
    | cons c rest => simp [stop c rfl]
  rw [spanDigits, List.takeWhile_append_of_pos row, List.dropWhile_append_of_pos row, before,
    behind, List.append_nil]

theorem isDigit_ne {c other : Char} (digit : isDigit c = true) (h : isDigit other = false) :
    c ≠ other := by
  rintro rfl
  rw [digit] at h
  exact Bool.noConfusion h

theorem exists_digitChar {c : Char} (digit : isDigit c = true) :
    ∃ value, value < 10 ∧ c = digitChar value := by
  simp only [isDigit, Bool.and_eq_true, decide_eq_true_eq] at digit
  have least : 48 ≤ c.toNat := digit.1
  have greatest : c.toNat ≤ 57 := digit.2
  refine ⟨c.toNat - 48, by omega, ?_⟩
  have code : '0'.toNat + (c.toNat - 48) = c.toNat := Nat.add_sub_cancel' least
  rw [digitChar, code, Char.ofNat_toNat]

/-- The characters of a number that has digits. -/
def isNumeralChar (c : Char) : Bool :=
  isDigit c || c = '.' || c = 'e' || c = '-'

theorem isNumeralChar_of_isDigit {c : Char} (digit : isDigit c = true) :
    isNumeralChar c = true := by
  simp [isNumeralChar, digit]

theorem exists_digits_eq_cons (number : Nat) :
    ∃ c ds, digits number = c :: ds ∧ isDigit c = true := by
  obtain ⟨c, ds, first⟩ := List.exists_cons_of_ne_nil (digits_ne_nil number)
  exact ⟨c, ds, first, isDigit_of_mem_digits (first ▸ List.mem_cons_self)⟩

/-- The first digit of a positive number is not zero. -/
theorem head?_digits_ne_zero {number : Nat} (nonzero : number ≠ 0) :
    (digits number).head? ≠ some '0' := by
  induction number using digits.induct with
  | case1 number small =>
      rw [digits, if_pos small, List.head?_singleton]
      revert number
      decide
  | case2 number large ih =>
      have first := ih (by omega)
      obtain ⟨c, ds, equation, _⟩ := exists_digits_eq_cons (number / 10)
      rw [digits, if_neg large]
      rw [equation] at first ⊢
      exact first

/-! ### Exponents -/

/-- An exponent behind its mark, with what stands before one that is not negative. -/
def exponentText (plus : List Char) (exponent : Int) : List Char :=
  if exponent < 0 then '-' :: digits exponent.natAbs else plus ++ digits exponent.natAbs

theorem exponent?_digits (number : Nat) :
    exponent? (digits number) = some (number : Int) ∧
      exponent? ('+' :: digits number) = some (number : Int) ∧
      exponent? ('-' :: digits number) = some (-(number : Int)) := by
  have row : ∀ c ∈ digits number, isDigit c = true := fun c member => isDigit_of_mem_digits member
  have size := ofDigits_digits number
  obtain ⟨c, ds, first, digit⟩ := exists_digits_eq_cons number
  rw [first] at row size ⊢
  have notMinus : c ≠ '-' := isDigit_ne digit (by decide)
  have notPlus : c ≠ '+' := isDigit_ne digit (by decide)
  have allDigits : (c :: ds).all isDigit = true := List.all_eq_true.mpr row
  simp [exponent?, notMinus, notPlus, size, allDigits]

theorem exponent?_exponentText {plus : List Char} (sign : plus = [] ∨ plus = ['+'])
    (exponent : Int) : exponent? (exponentText plus exponent) = some exponent := by
  obtain ⟨plain, positive, negative⟩ := exponent?_digits exponent.natAbs
  rw [exponentText]
  split
  · have value : -(exponent.natAbs : Int) = exponent := by omega
    rw [negative, value]
  · have value : (exponent.natAbs : Int) = exponent := by omega
    rcases sign with rfl | rfl
    · rw [List.nil_append, plain, value]
    · rw [List.singleton_append, positive, value]

end Decimal

/-! ### Numerals -/

/-- The parts of a numeral. -/
structure Numeral where
  whole : List Char
  /-- The digits behind the point, which is not written without them. -/
  fraction : List Char
  exponent : Option Int

namespace Numeral

open Decimal

/-- The digits behind the point, with the point. -/
def fractionText (numeral : Numeral) : List Char :=
  if numeral.fraction.isEmpty then [] else '.' :: numeral.fraction

def scaleText (plus : List Char) (numeral : Numeral) : List Char :=
  match numeral.exponent with
  | none => []
  | some exponent => 'e' :: exponentText plus exponent

/-- The text of a numeral, with what stands before an exponent that is not negative. -/
def text (plus : List Char) (numeral : Numeral) : List Char :=
  numeral.whole ++ numeral.fractionText ++ numeral.scaleText plus

def decimal (numeral : Numeral) : Decimal :=
  ⟨ofDigits (numeral.whole ++ numeral.fraction),
    numeral.exponent.getD 0 - numeral.fraction.length⟩

/-- The parts of a numeral are rows of digits, and there is at least one digit before the point. -/
structure WellFormed (numeral : Numeral) : Prop where
  whole_ne_nil : numeral.whole ≠ []
  whole_row : ∀ c ∈ numeral.whole, isDigit c = true
  fraction_row : ∀ c ∈ numeral.fraction, isDigit c = true

theorem WellFormed.exists_whole_eq_cons {numeral : Numeral} (wellFormed : numeral.WellFormed) :
    ∃ c ds, numeral.whole = c :: ds ∧ isDigit c = true := by
  obtain ⟨c, ds, first⟩ := List.exists_cons_of_ne_nil wellFormed.whole_ne_nil
  exact ⟨c, ds, first, wellFormed.whole_row c (first ▸ List.mem_cons_self)⟩

/-- The digits before the point do not start with a zero that could be left out. -/
def LeadingZeroAlone (numeral : Numeral) : Prop :=
  numeral.whole.head? = some '0' → numeral.whole.length = 1

variable {plus : List Char} {numeral : Numeral}

theorem digitsEnd_scaleText : DigitsEnd (numeral.scaleText plus) := by
  intro c first
  rw [scaleText] at first
  split at first
  · cases first
  · cases first
    decide

theorem digitsEnd_fractionText_scaleText :
    DigitsEnd (numeral.fractionText ++ numeral.scaleText plus) := by
  by_cases whole : numeral.fraction.isEmpty = true
  · rw [fractionText, if_pos whole, List.nil_append]
    exact digitsEnd_scaleText
  · rw [fractionText, if_neg whole]
    intro c first
    cases first
    decide

theorem parse?_text (sign : plus = [] ∨ plus = ['+']) (wellFormed : numeral.WellFormed) :
    Decimal.parse? (numeral.text plus) = some numeral.decimal := by
  have whole := spanDigits_append wellFormed.whole_row
    (@digitsEnd_fractionText_scaleText plus numeral)
  have fraction := spanDigits_append wellFormed.fraction_row (@digitsEnd_scaleText plus numeral)
  have nonempty := wellFormed.whole_ne_nil
  rw [text, List.append_assoc, parse?, whole, decimal]
  by_cases noFraction : numeral.fraction.isEmpty = true
  · rw [fractionText, if_pos noFraction, List.isEmpty_iff.mp noFraction, scaleText]
    cases numeral.exponent with
    | none => simp [nonempty]
    | some exponent => simp [nonempty, exponent?_exponentText sign]
  · simp only [fractionText, if_neg noFraction, List.cons_append, fraction]
    rw [scaleText]
    cases numeral.exponent with
    | none => simp [nonempty]
    | some exponent => simp [nonempty, exponent?_exponentText sign]

theorem isNumeralChar_of_mem_text {numeral : Numeral} (wellFormed : numeral.WellFormed) {c : Char}
    (member : c ∈ numeral.text []) : isNumeralChar c = true := by
  rw [Numeral.text, List.mem_append, List.mem_append] at member
  rcases member with (whole | fraction) | scale
  · exact isNumeralChar_of_isDigit (wellFormed.whole_row c whole)
  · rw [Numeral.fractionText] at fraction
    split at fraction
    · cases fraction
    · rcases List.mem_cons.mp fraction with rfl | digit
      · rfl
      · exact isNumeralChar_of_isDigit (wellFormed.fraction_row c digit)
  · rw [Numeral.scaleText] at scale
    split at scale
    · cases scale
    · rcases List.mem_cons.mp scale with rfl | exponent
      · rfl
      · rw [exponentText] at exponent
        split at exponent
        · rcases List.mem_cons.mp exponent with rfl | digit
          · rfl
          · exact isNumeralChar_of_isDigit (isDigit_of_mem_digits digit)
        · exact isNumeralChar_of_isDigit (isDigit_of_mem_digits exponent)

end Numeral

end CognitiveKernel
