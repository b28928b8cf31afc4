/-
Module: CognitiveKernel.Yaml.Directive
Purpose: Scanning the directives that may precede a document.
Main exports: scanDirective
-/
import CognitiveKernel.Decimal.Digits
import CognitiveKernel.Yaml.Tag

namespace CognitiveKernel.Yaml

/-- Scans a part of a version number, which has at most nine digits. -/
def scanVersionPart (text : List Char) : Option (Nat × List Char) :=
  let digits := text.takeWhile Decimal.isDigit
  if digits.isEmpty || 9 < digits.length then none
  else some (Decimal.ofDigits digits, text.dropWhile Decimal.isDigit)

/-- Scans the version of a version directive. -/
def scanVersion (text : List Char) : Option (Token × List Char) := do
  let (major, rest) ← scanVersionPart (text.dropWhile isBlank)
  match rest with
  | '.' :: rest =>
      let (minor, rest) ← scanVersionPart rest
      return (.versionDirective major minor, rest)
  | _ => none

/-- Scans the handle and its replacement in a tag directive. -/
def scanReplacement (text : List Char) : Option (Token × List Char) := do
  let (handle, closed, rest) ← scanHandle (text.dropWhile isBlank)
  guard (closed || handle = "!")
  guard (rest.head?.any isBlank)
  let (replacement, rest) ← scanUri true .text (rest.dropWhile isBlank)
  guard (!replacement.isEmpty && endsWord rest)
  return (.tagDirective handle (endAtNul replacement), rest)

/-- Scans a directive behind its percent sign. Only versions and tags have directives. -/
def scanDirective (text : List Char) : Option (Token × List Char) :=
  let name := text.takeWhile isWordChar
  let rest := text.dropWhile isWordChar
  if !endsWord rest then none
  else if name = ['Y', 'A', 'M', 'L'] then scanVersion rest
  else if name = ['T', 'A', 'G'] then scanReplacement rest
  else none

end CognitiveKernel.Yaml
