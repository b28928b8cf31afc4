/-
Module: CognitiveKernel.Proofs.Binary64.Writing
Purpose: Numbers that are written in any layout read back as themselves.
Main exports: Magnitude.numeral, Magnitude.ofDecimal_numeral, Binary64.ofNumeral?_writeWith,
  Binary64.exists_writeWith_eq_cons
-/
import CognitiveKernel.Binary64.Writing
import CognitiveKernel.Proofs.Binary64.Reading
import CognitiveKernel.Proofs.Decimal.Layout

namespace CognitiveKernel

open Decimal (Layout isDigit isDigit_ne)

namespace Magnitude

/-- The numeral that is written for a magnitude. -/
def numeral (layout : Layout) (magnitude : Magnitude) : Numeral :=
  if magnitude.rank = 0 then ⟨['0'], layout.wholeFraction, none⟩
  else layout.numeral (magnitude.shortest layout.tie)

variable {layout : Layout}

/-- Only zero has no digit but zero. -/
theorem coefficient_shortest_ne_zero {magnitude : Magnitude} (tie : Decimal.Tie)
    (positive : magnitude.rank ≠ 0) : (magnitude.shortest tie).coefficient ≠ 0 := by
  intro vanishing
  have read := magnitude.ofDecimal_shortest tie
  rw [ofDecimal, if_pos (Or.inl vanishing)] at read
  exact positive (congrArg rank read.symm)

theorem write_eq_text (regular : layout.Regular) (magnitude : Magnitude) :
    magnitude.write layout = (magnitude.numeral layout).text layout.exponentSign := by
  rw [write, numeral]
  split
  · rw [Numeral.text, Layout.fractionText_wholeFraction regular, Numeral.scaleText,
      List.append_nil]
    rfl
  · exact Layout.write_eq_text regular _

theorem wellFormed_numeral (regular : layout.Regular) (magnitude : Magnitude) :
    (magnitude.numeral layout).WellFormed := by
  rw [numeral]
  split
  · exact ⟨by simp, by simp [isDigit], Layout.isDigit_of_mem_wholeFraction regular⟩
  · exact Layout.wellFormed_numeral regular _

theorem leadingZeroAlone_numeral (magnitude : Magnitude) :
    (magnitude.numeral layout).LeadingZeroAlone := by
  rw [numeral]
  split
  · exact fun _ => rfl
  · rename_i positive
    exact Layout.leadingZeroAlone_numeral (coefficient_shortest_ne_zero _ positive)

/-- The numeral of a magnitude denotes a number that rounds to it. -/
theorem ofDecimal_numeral (regular : layout.Regular) (magnitude : Magnitude) :
    ofDecimal (magnitude.numeral layout).decimal = magnitude := by
  rw [numeral]
  split
  · rename_i zeroRank
    have value : (Numeral.mk ['0'] layout.wholeFraction none).decimal.value =
        Decimal.value ⟨0, 0⟩ := Layout.value_whole regular ['0'] 0
    rw [ofDecimal_congr value]
    cases magnitude with
    | mk rank bound =>
        subst zeroRank
        rfl
  · rw [ofDecimal_congr (Layout.value_numeral regular _)]
    exact ofDecimal_shortest _ _

theorem parse?_write (regular : layout.Regular) (magnitude : Magnitude) :
    Decimal.parse? (magnitude.write layout) = some (magnitude.numeral layout).decimal := by
  rw [write_eq_text regular]
  exact Numeral.parse?_text regular.sign (wellFormed_numeral regular magnitude)

theorem exists_write_eq_cons (regular : layout.Regular) (magnitude : Magnitude) :
    ∃ c text, magnitude.write layout = c :: text ∧ isDigit c = true := by
  obtain ⟨c, whole, first, digit⟩ := (wellFormed_numeral regular magnitude).exists_whole_eq_cons
  rw [write_eq_text regular, Numeral.text, first]
  exact ⟨c, _, rfl, digit⟩

theorem eq_infinity {magnitude : Magnitude} (infinite : magnitude.isFinite = false) :
    magnitude = infinity := by
  obtain ⟨rank, rank_le⟩ := magnitude
  have beyond : infinityRank ≤ rank := Nat.not_lt.mp (of_decide_eq_false infinite)
  have same : rank = infinityRank := Nat.le_antisymm rank_le beyond
  subst same
  rfl

end Magnitude

namespace Binary64

/-- A finite number is read from its text in any layout. -/
theorem ofNumeral?_writeWith {layout : Layout} (regular : layout.Regular) (spelling : Spelling)
    {value : Binary64} (finite : value.isFinite = true) :
    ofNumeral? (value.writeWith spelling (Magnitude.write layout)) = some value := by
  cases value with
  | nan => cases finite
  | number negative magnitude =>
      have size := magnitude.ofDecimal_numeral regular
      have read := magnitude.parse?_write regular
      have finiteMagnitude : magnitude.isFinite = true := finite
      rw [writeWith, if_pos finiteMagnitude]
      cases negative with
      | true => simp [ofNumeral?, read, ofDecimal, size]
      | false =>
          obtain ⟨c, text, written, digit⟩ := magnitude.exists_write_eq_cons regular
          have notMinus : c ≠ '-' := isDigit_ne digit (by decide)
          have notPlus : c ≠ '+' := isDigit_ne digit (by decide)
          rw [written] at read ⊢
          simp [ofNumeral?, notMinus, notPlus, read, ofDecimal, size]

/-- The text of a finite number begins with a digit, or with a minus sign and a digit. -/
theorem exists_writeWith_eq_cons {layout : Layout} (regular : layout.Regular) (spelling : Spelling)
    {value : Binary64} (finite : value.isFinite = true) :
    ∃ c more, isDigit c = true ∧
      (value.writeWith spelling (Magnitude.write layout) = c :: more ∨
        value.writeWith spelling (Magnitude.write layout) = '-' :: c :: more) := by
  cases value with
  | nan => cases finite
  | number negative magnitude =>
      have finiteMagnitude : magnitude.isFinite = true := finite
      obtain ⟨c, more, first, digit⟩ := magnitude.exists_write_eq_cons regular
      refine ⟨c, more, digit, ?_⟩
      rw [writeWith, if_pos finiteMagnitude, first]
      cases negative
      · exact .inl rfl
      · exact .inr rfl

/-- Whether a text begins with two characters that are no digits, as the words for infinity and NaN
do. -/
def isWord (text : String) : Bool :=
  match text.toList with
  | c :: d :: _ => !isDigit c && !isDigit d
  | _ => false

/-- A text that begins with a digit, with or without a minus sign, is no word. -/
theorem ofList_ne_word {content more : List Char} {c : Char} (digit : isDigit c = true)
    (start : content = c :: more ∨ content = '-' :: c :: more) {word : String}
    (letters : isWord word = true) : String.ofList content ≠ word := by
  rintro rfl
  rw [isWord, String.toList_ofList] at letters
  rcases start with rfl | rfl
  · cases more <;> simp [digit] at letters
  · simp [digit] at letters

end Binary64

end CognitiveKernel
