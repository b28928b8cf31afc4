/-
Module: CognitiveKernel.Proofs.Binary64.Display
Purpose: Displayed numbers read back as themselves and are spelled with few characters.
Main exports: Binary64.parse?_display, Binary64.display_inj, Binary64.lacks_display
-/
import CognitiveKernel.Proofs.Binary64.Bits
import CognitiveKernel.Proofs.Binary64.Writing
import CognitiveKernel.Proofs.Text.Delimiter

namespace CognitiveKernel.Binary64

open Decimal (Layout isDigit isNumeralChar)
open Text (Lacks)

theorem regular_plain : Layout.plain.Regular := ⟨Or.inl rfl, Or.inl rfl⟩

/-- A text that begins with a digit, with or without a minus sign, is read as a numeral. -/
theorem parse?_ofList {content more : List Char} {c : Char} (digit : isDigit c = true)
    (start : content = c :: more ∨ content = '-' :: c :: more) :
    parse? (String.ofList content) = ofNumeral? content := by
  have nan : String.ofList content ≠ "NaN" := ofList_ne_word digit start (by decide)
  have infinite : String.ofList content ≠ "inf" := ofList_ne_word digit start (by decide)
  have negative : String.ofList content ≠ "-inf" := ofList_ne_word digit start (by decide)
  rw [parse?, if_neg nan, if_neg infinite, if_neg negative, String.toList_ofList]

/-- Every number is read from the text that displays it, both zeros included, up to the bits of
NaN. -/
theorem parse?_display (value : Binary64) : parse? value.display = some value.upToNaN := by
  cases value with
  | nan => rfl
  | number negative magnitude =>
      cases finite : magnitude.isFinite with
      | true =>
          have finiteNumber : (number negative magnitude).isFinite = true := finite
          have read := ofNumeral?_writeWith regular_plain .words finiteNumber
          obtain ⟨c, more, digit, start⟩ :=
            exists_writeWith_eq_cons regular_plain .words finiteNumber
          rw [display, parse?_ofList digit start, read]
          rfl
      | false =>
          rw [magnitude.eq_infinity finite]
          cases negative <;> rfl

theorem display_upToNaN (value : Binary64) : value.upToNaN.display = value.display := by
  cases value <;> rfl

theorem display_inj {left right : Binary64} :
    left.display = right.display ↔ left.upToNaN = right.upToNaN := by
  constructor
  · intro same
    have read := congrArg parse? same
    rw [parse?_display, parse?_display] at read
    exact Option.some.inj read
  · intro same
    rw [← display_upToNaN left, same, display_upToNaN]

/-- A number has no characters but those of the words for infinity and NaN, if it is written with
those of numerals where it is finite. -/
theorem lacks_writeWith {c : Char} (notNumeral : isNumeralChar c = false)
    (notWord : c ∉ ['N', 'a', 'i', 'n', 'f']) {finite : Magnitude → List Char}
    (numeral : ∀ magnitude, ∀ d ∈ finite magnitude, isNumeralChar d = true) (value : Binary64) :
    Lacks c (String.ofList (value.writeWith .words finite)) := by
  have notMinus : c ≠ '-' := by
    rintro rfl
    cases notNumeral
  rw [Lacks, String.toList_ofList]
  cases value with
  | nan =>
      have letters : ∀ d ∈ Spelling.words.nan, d ∈ ['N', 'a', 'i', 'n', 'f'] := by
        simp [Spelling.words]
      exact fun member => notWord (letters c member)
  | number negative magnitude =>
      have unsigned : c ∉ (if magnitude.isFinite then finite magnitude
          else Spelling.words.infinity) := by
        split
        · intro member
          exact absurd (notNumeral.symm.trans (numeral magnitude c member)) Bool.false_ne_true
        · have letters : ∀ d ∈ Spelling.words.infinity, d ∈ ['N', 'a', 'i', 'n', 'f'] := by
            simp [Spelling.words]
          exact fun member => notWord (letters c member)
      rw [writeWith]
      cases negative with
      | true => exact fun member => (List.mem_cons.mp member).elim notMinus unsigned
      | false => exact unsigned

/-- A displayed number has no characters but those of numerals and of the words for infinity and
NaN. -/
theorem lacks_display {c : Char} (notNumeral : isNumeralChar c = false)
    (notWord : c ∉ ['N', 'a', 'i', 'n', 'f']) (value : Binary64) : Lacks c value.display := by
  apply lacks_writeWith notNumeral notWord
  intro magnitude d member
  rw [magnitude.write_eq_text regular_plain] at member
  exact Numeral.isNumeralChar_of_mem_text (magnitude.wellFormed_numeral regular_plain) member

end CognitiveKernel.Binary64
