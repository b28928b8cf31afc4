/-
Module: CognitiveKernel.Proofs.Json.Text
Purpose: Every text is read from its literal, whatever characters it has.
Main exports: Json.writeChar_cases, Json.charSpelling_writeChar, Json.readText_tail_writeText
-/
import CognitiveKernel.Proofs.Json.Literal

namespace CognitiveKernel.Json

/-- Four digits spell every number that has no more. -/
theorem unitSpelling_digits (letters : Hexadecimal.LetterCase) {number : Nat}
    (small : number < 0x10000) : UnitSpelling number (Hexadecimal.digits letters 4 number) := by
  have digitOf (shift : Nat) : number / shift % 16 < 16 := Nat.mod_lt _ (by decide)
  have size : 4096 * (number / 4096 % 16) + 256 * (number / 256 % 16) + 16 * (number / 16 % 16) +
      number % 16 = number := by omega
  have spelled := UnitSpelling.digits
    ⟨digitOf 4096, digitOf 256, digitOf 16, Nat.mod_lt number (by decide)⟩ letters letters letters
    letters
  rw [size] at spelled
  simpa only [Hexadecimal.digits, Nat.div_div_eq_div_mul, List.nil_append, List.cons_append]
    using spelled

/-- A character is written behind a backslash, by its number, or as it is. -/
theorem writeChar_cases (c : Char) :
    (∃ letter, writeChar c = ['\\', letter] ∧ escape? letter = some c) ∨
      (c.toNat < 0x20 ∧ writeChar c = '\\' :: 'u' :: Hexadecimal.digits .lower 4 c.toNat) ∨
      (c ≠ '"' ∧ c ≠ '\\' ∧ ¬c.toNat < 0x20 ∧ writeChar c = [c]) := by
  by_cases named : c ∈ ['"', '\\', '\x08', '\x0c', '\n', '\r', '\t']
  · left
    simp only [List.mem_cons, List.not_mem_nil, or_false] at named
    rcases named with rfl | rfl | rfl | rfl | rfl | rfl | rfl <;> exact ⟨_, rfl, rfl⟩
  · right
    simp only [List.mem_cons, List.not_mem_nil, or_false, not_or] at named
    obtain ⟨notQuote, notBackslash, others⟩ := named
    by_cases control : c.toNat < 0x20
    · exact Or.inl ⟨control, by simp [writeChar, notQuote, notBackslash, others, control]⟩
    · exact Or.inr ⟨notQuote, notBackslash, control,
        by simp [writeChar, notQuote, notBackslash, others, control]⟩

/-- What is written for a character is one of its spellings. -/
theorem charSpelling_writeChar (c : Char) : CharSpelling c (writeChar c) := by
  rcases writeChar_cases c with
    ⟨letter, written, stands⟩ | ⟨control, written⟩ | ⟨notQuote, notBackslash, visible, written⟩
  · rw [written]
    exact .escape stands
  · rw [written]
    exact .unit (unitSpelling_digits .lower (by omega))
  · rw [written]
    exact .plain notQuote notBackslash (Nat.not_lt.mp visible)

theorem rowSpelling_flatMap_writeChar (content : List Char) :
    RowSpelling CharSpelling content (content.flatMap writeChar) := by
  induction content with
  | nil => exact .nil
  | cons c content ih => exact .cons (charSpelling_writeChar c) ih

theorem writeText_eq_cons (content : Option String) :
    writeText content = '"' :: (writeText content).tail := by
  cases content <;> rfl

/-- A text is read from what stands behind the opening quote of its literal. -/
theorem readText_tail_writeText (content : Option String) (rest : List Char) :
    readText ((writeText content).tail ++ rest) = some (content, rest) := by
  cases content with
  | none =>
      have half : readPieces ((writeText none).tail ++ rest) =
          some ([.surrogate 0xD800], rest) := by
        simp [writeText, readPieces, Hexadecimal.value?, Piece.ofUnit]
      rw [readText, half]
      rfl
  | some content =>
      rw [writeText, List.tail_cons, List.append_assoc, List.singleton_append]
      exact readText_eq_some_iff.mpr ⟨_, rfl, rowSpelling_flatMap_writeChar content.toList⟩

end CognitiveKernel.Json
