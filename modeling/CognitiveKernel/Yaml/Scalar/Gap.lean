/-
Module: CognitiveKernel.Yaml.Scalar.Gap
Purpose: The blanks and line breaks between the words of a scalar that runs over several lines.
Main exports: Gap, Gap.fold
-/
import CognitiveKernel.Yaml.Cursor

namespace CognitiveKernel.Yaml

/-- What was passed since the last word of a scalar. -/
inductive Gap where
  /-- Blanks of one line. -/
  | blanks (text : List Char)
  /-- Line breaks; the blanks around them do not count. The first one is missing when it was
  escaped. -/
  | broken (first : Option Char) (more : List Char)
deriving Repr, DecidableEq

namespace Gap

def none : Gap := blanks []

def hasBreak : Gap → Bool
  | blanks _ => false
  | broken _ _ => true

def addBlank (c : Char) : Gap → Gap
  | blanks text => blanks (text ++ [c])
  | broken first more => broken first more

/-- The gap with one more line break. -/
def addBreak (c : Char) : Gap → Gap
  | blanks _ => broken (some (foldBreak c)) []
  | broken first more => broken first (more ++ [foldBreak c])

/-- What a gap contributes to the text of a scalar: blanks are kept, a single line feed becomes a
space, and of several breaks a leading line feed is dropped. -/
def fold : Gap → List Char
  | blanks text => text
  | broken (some first) more =>
      if first = '\n' then (if more.isEmpty then [' '] else more) else first :: more
  | broken Option.none more => more

end Gap

end CognitiveKernel.Yaml
