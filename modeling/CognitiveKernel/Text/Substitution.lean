/-
Module: CognitiveKernel.Text.Substitution
Purpose: Finding a text inside another, and replacing all its occurrences.
Main exports: occursIn, replaceAll
-/

namespace CognitiveKernel.Text

/-- Whether a row of characters occurs in another without gaps. -/
def occursInChars (pattern : List Char) : List Char → Bool
  | [] => pattern.isEmpty
  | c :: rest => pattern.isPrefixOf (c :: rest) || occursInChars pattern rest

theorem occursInChars_iff_infix (pattern text : List Char) :
    occursInChars pattern text = true ↔ pattern <:+: text := by
  induction text with
  | nil => simp [occursInChars]
  | cons c rest ih => simp [occursInChars, List.infix_cons_iff, ih]

def occursIn (pattern text : String) : Bool :=
  occursInChars pattern.toList text.toList

/-- Replaces the occurrences of a non-empty pattern, found from left to right and without overlap.
What has been put in is not searched again. -/
def replaceAllChars (pattern replacement : List Char) : List Char → List Char
  | [] => []
  | c :: rest =>
      if pattern.isPrefixOf (c :: rest) then
        replacement ++ replaceAllChars pattern replacement (rest.drop (pattern.length - 1))
      else
        c :: replaceAllChars pattern replacement rest
termination_by text => text.length
decreasing_by
  all_goals simp only [List.length_drop, List.length_cons]; omega

/-- Replaces the occurrences of a non-empty pattern in a text. -/
def replaceAll (pattern replacement text : String) : String :=
  String.ofList (replaceAllChars pattern.toList replacement.toList text.toList)

end CognitiveKernel.Text
