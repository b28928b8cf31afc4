/-
Module: CognitiveKernel.Text.Blank
Purpose: The characters with the Unicode property White_Space, and trimming.
Main exports: isBlank, trim, trimChars_infix
-/

namespace CognitiveKernel.Text

/-- Whether a character has the property White_Space. -/
def isBlank (c : Char) : Bool :=
  let code := c.toNat
  (0x09 ≤ code && code ≤ 0x0D) || code = 0x20 || code = 0x85 || code = 0xA0 || code = 0x1680 ||
    (0x2000 ≤ code && code ≤ 0x200A) || code = 0x2028 || code = 0x2029 || code = 0x202F ||
    code = 0x205F || code = 0x3000

/-- A row of characters without the blanks at its ends. -/
def trimChars (text : List Char) : List Char :=
  ((text.dropWhile isBlank).reverse.dropWhile isBlank).reverse

/-- Trimming takes a part of the text that begins behind the blanks at its start. -/
theorem trimChars_prefix_dropWhile (text : List Char) :
    trimChars text <+: text.dropWhile isBlank := by
  have kept := List.dropWhile_suffix (l := (text.dropWhile isBlank).reverse) isBlank
  rw [← List.reverse_prefix, List.reverse_reverse] at kept
  exact kept

/-- A trimmed text is a part of the text. -/
theorem trimChars_infix (text : List Char) : trimChars text <:+: text :=
  (trimChars_prefix_dropWhile text).isInfix.trans (List.dropWhile_suffix isBlank).isInfix

/-- A trimmed text does not begin with a blank. -/
theorem isBlank_of_head?_trimChars {text : List Char} {c : Char}
    (h : (trimChars text).head? = some c) : isBlank c = false := by
  obtain ⟨tail, trimmedEq⟩ := List.head?_eq_some_iff.mp h
  obtain ⟨rest, restEq⟩ := trimChars_prefix_dropWhile text
  have first := List.head?_dropWhile_not isBlank text
  rw [← restEq, trimmedEq] at first
  exact first

/-- A trimmed text does not end with a blank. -/
theorem isBlank_of_getLast?_trimChars {text : List Char} {c : Char}
    (h : (trimChars text).getLast? = some c) : isBlank c = false := by
  have last := List.head?_dropWhile_not isBlank (text.dropWhile isBlank).reverse
  rw [trimChars, List.getLast?_reverse] at h
  rw [h] at last
  exact last

/-- A text without the blanks at its ends. -/
def trim (text : String) : String :=
  String.ofList (trimChars text.toList)

end CognitiveKernel.Text
