/-
Module: CognitiveKernel.Text.Quoted
Purpose: Texts in double quotes, with escapes for everything that cannot be seen.
Main exports: escapeChar, quote
-/
import CognitiveKernel.Text.Visible

namespace CognitiveKernel.Text

/-- The spelling of a character inside double quotes. -/
def escapeChar (c : Char) : List Char :=
  if c = '\x00' then ['\\', '0']
  else if c = '\t' then ['\\', 't']
  else if c = '\n' then ['\\', 'n']
  else if c = '\r' then ['\\', 'r']
  else if c = '"' then ['\\', '"']
  else if c = '\\' then ['\\', '\\']
  else if isVisible c then [c]
  else '\\' :: 'u' :: '\x7b' :: (Nat.toDigits 16 c.toNat ++ ['\x7d'])

/-- A text in double quotes: a hidden character is given by its code point in hexadecimal. -/
def quote (text : String) : String :=
  String.ofList ('"' :: (text.toList.flatMap escapeChar ++ ['"']))

end CognitiveKernel.Text
