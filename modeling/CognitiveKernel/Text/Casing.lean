/-
Module: CognitiveKernel.Text.Casing
Purpose: Names of several words, rewritten from one casing into another.
Main exports: snakeCaseChars, screamingSnakeCase
-/

namespace CognitiveKernel.Text

/-- Small letters throughout, and an underscore where a word begins behind another. Words begin with
a capital. -/
def snakeCaseChars : List Char → List Char
  | [] => []
  | first :: rest =>
      first.toLower :: rest.flatMap fun c => if c.isUpper then ['_', c.toLower] else [c.toLower]

/-- Capitals throughout, and an underscore where a word begins behind another. -/
def screamingSnakeCase (name : String) : String :=
  String.ofList ((snakeCaseChars name.toList).map Char.toUpper)

end CognitiveKernel.Text
