/-
Module: CognitiveKernel.Yaml.Token
Purpose: The tokens that a YAML text consists of.
Main exports: ScalarStyle, Token
-/

namespace CognitiveKernel.Yaml

inductive ScalarStyle where
  | plain
  | singleQuoted
  | doubleQuoted
  | literal
  | folded
deriving Repr, DecidableEq

/-- The text of a tag, in which escaped bytes need not spell a character. -/
abbrev TagText := List (Option Char)

/-- A token. Block collections are opened and closed by tokens of their own, which stand for a
change of indentation. -/
inductive Token where
  | versionDirective (major minor : Nat)
  | tagDirective (handle : String) (replacement : TagText)
  | documentStart
  | documentEnd
  | blockSequenceStart
  | blockMappingStart
  | blockEnd
  | flowSequenceStart
  | flowSequenceEnd
  | flowMappingStart
  | flowMappingEnd
  /-- The indicator of an item of a block sequence. -/
  | blockEntry
  /-- The comma between the entries of a flow collection. -/
  | flowEntry
  /-- A key follows. -/
  | key
  /-- A value follows. -/
  | value
  | alias (name : String)
  | anchor (name : String)
  | tag (handle : String) (suffix : TagText)
  | scalar (text : String) (style : ScalarStyle)
deriving Repr, DecidableEq

end CognitiveKernel.Yaml
