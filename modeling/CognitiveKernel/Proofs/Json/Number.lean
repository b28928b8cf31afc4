/-
Module: CognitiveKernel.Proofs.Json.Number
Purpose: Number literals are read up to their end, and a finite number survives its literal.
Main exports: Json.NumberEnd, Json.IsLiteral, Json.isLiteral_writeWith, Json.finite?_writeWith
-/
import CognitiveKernel.Json.Decoding
import CognitiveKernel.Json.Writing
import CognitiveKernel.Proofs.Binary64.Writing

namespace CognitiveKernel.Json

open Decimal (digits isDigit isDigit_ne spanDigits DigitsEnd exponentText)

/-- A text whose first character does not continue a number. -/
def NumberEnd (text : List Char) : Prop :=
  ∀ c ∈ text.head?, isDigit c = false ∧ c ≠ '.' ∧ c ≠ 'e' ∧ c ≠ 'E'

/-- A number literal: it is read to its end, whatever follows that does not continue it. -/
def IsLiteral (literal : List Char) : Prop :=
  ∀ rest, NumberEnd rest → readNumber (literal ++ rest) = some (literal, rest)

section

variable {plus rest : List Char} {numeral : Numeral}

theorem NumberEnd.digitsEnd (stop : NumberEnd rest) : DigitsEnd rest :=
  fun c first => (stop c first).1

theorem readExponent_of_numberEnd (stop : NumberEnd rest) :
    readExponent rest = some ([], rest) := by
  cases rest with
  | nil => rfl
  | cons c rest =>
      obtain ⟨_, _, notLower, notUpper⟩ := stop c rfl
      simp [readExponent, notLower, notUpper]

theorem readExponent_scaleText (sign : plus = [] ∨ plus = ['+']) (stop : NumberEnd rest) :
    readExponent (numeral.scaleText plus ++ rest) = some (numeral.scaleText plus, rest) := by
  rw [Numeral.scaleText]
  cases numeral.exponent with
  | none => exact readExponent_of_numberEnd stop
  | some exponent =>
      have nonempty := Decimal.digits_ne_nil exponent.natAbs
      have row : ∀ c ∈ digits exponent.natAbs, isDigit c = true :=
        fun _ => Decimal.isDigit_of_mem_digits
      have span := Decimal.spanDigits_append row stop.digitsEnd
      dsimp only
      rw [exponentText]
      split
      · simp [readExponent, span, nonempty]
      · rcases sign with rfl | rfl
        · obtain ⟨c, ds, first, digit⟩ := Decimal.exists_digits_eq_cons exponent.natAbs
          have notMinus : c ≠ '-' := isDigit_ne digit (by decide)
          have notPlus : c ≠ '+' := isDigit_ne digit (by decide)
          rw [first, List.cons_append] at span
          simp [first, readExponent, notMinus, notPlus, span]
        · simp [readExponent, span, nonempty]

theorem digitsEnd_scaleText_append (stop : NumberEnd rest) :
    DigitsEnd (numeral.scaleText plus ++ rest) := by
  rw [Numeral.scaleText]
  cases numeral.exponent with
  | none => exact stop.digitsEnd
  | some exponent =>
      rintro c ⟨⟩
      decide

theorem readFraction_fractionText (wellFormed : numeral.WellFormed) (stop : NumberEnd rest) :
    readFraction (numeral.fractionText ++ (numeral.scaleText plus ++ rest)) =
      some (numeral.fractionText, numeral.scaleText plus ++ rest) := by
  rw [Numeral.fractionText]
  split
  · rw [List.nil_append, Numeral.scaleText]
    cases numeral.exponent with
    | none =>
        cases rest with
        | nil => rfl
        | cons c rest =>
            have notPoint := (stop c rfl).2.1
            simp [readFraction, notPoint]
    | some exponent => rfl
  · rename_i nonempty
    have span := Decimal.spanDigits_append wellFormed.fraction_row
      (@digitsEnd_scaleText_append plus rest numeral stop)
    simp [readFraction, span, List.isEmpty_iff.not.mp nonempty]

theorem digitsEnd_fractionText_append (stop : NumberEnd rest) :
    DigitsEnd (numeral.fractionText ++ (numeral.scaleText plus ++ rest)) := by
  rw [Numeral.fractionText]
  split
  · exact digitsEnd_scaleText_append stop
  · rintro c ⟨⟩
    decide

/-- The sign is the only difference between the literals of a number and of its magnitude. -/
theorem isLiteral_text (sign : plus = [] ∨ plus = ['+']) (wellFormed : numeral.WellFormed)
    (leading : numeral.LeadingZeroAlone) (negative : Bool) :
    IsLiteral ((if negative then ['-'] else []) ++ numeral.text plus) := by
  intro rest stop
  have span := Decimal.spanDigits_append wellFormed.whole_row
    (@digitsEnd_fractionText_append plus rest numeral stop)
  have fraction := @readFraction_fractionText plus rest numeral wellFormed stop
  have exponent := @readExponent_scaleText plus rest numeral sign stop
  cases negative with
  | true =>
      have accepted :
          ¬(numeral.whole = [] ∨ (numeral.whole.head? = some '0' ∧ numeral.whole.length ≠ 1)) := by
        rintro (empty | ⟨zero, several⟩)
        · exact wellFormed.whole_ne_nil empty
        · exact several (leading zero)
      simp only [Numeral.text, if_true, List.append_assoc, List.cons_append, List.nil_append,
        readNumber, span, if_neg accepted, fraction, exponent]
  | false =>
      obtain ⟨c, whole, first, digit⟩ := wellFormed.exists_whole_eq_cons
      have notMinus : c ≠ '-' := isDigit_ne digit (by decide)
      have alone : c = '0' → whole = [] := by
        rintro rfl
        have short := leading (by rw [first]; rfl)
        simpa [first] using short
      rw [first, List.cons_append] at span
      simpa [Numeral.text, readNumber, first, notMinus, span, fraction, exponent] using alone

end

/-! ### Finite numbers -/

theorem regular_json : Decimal.Layout.json.Regular := ⟨Or.inr rfl, Or.inr rfl⟩

theorem isLiteral_writeWith {value : Binary64} (finite : value.isFinite = true) :
    IsLiteral (value.writeWith .words (Magnitude.write .json)) := by
  cases value with
  | nan => cases finite
  | number negative magnitude =>
      have finiteMagnitude : magnitude.isFinite = true := finite
      rw [Binary64.writeWith, if_pos finiteMagnitude, magnitude.write_eq_text regular_json]
      exact isLiteral_text regular_json.sign (magnitude.wellFormed_numeral regular_json)
        magnitude.leadingZeroAlone_numeral negative

theorem finite?_writeWith {value : Binary64} (finite : value.isFinite = true) :
    finite? (value.writeWith .words (Magnitude.write .json)) = some value := by
  rw [finite?, Binary64.ofNumeral?_writeWith regular_json .words finite,
    Option.filter_some, if_pos finite]

end CognitiveKernel.Json
