/-
Text between double quotes, with what cannot be printed written as escapes.

A backslash, the quotes and the common control characters have escapes of
two characters. Any other character that has no glyph of its own is written
by its code point: controls, formats, blanks other than the space, private
characters, and marks that combine with the character before them.
-/
import Stagecraft.Text.Glyphless

namespace Stagecraft.Text

/-- The code point of a character between braces, in hexadecimal. -/
def codePoint (c : Char) : List Char :=
  ['\\', 'u', '\x7b'] ++ Nat.toDigits 16 c.toNat ++ ['\x7d']

/-- A character inside quotes. -/
def escape (c : Char) : List Char :=
  if c = '\\' ∨ c = '"' then ['\\', c]
  else if c = '\n' then ['\\', 'n']
  else if c = '\r' then ['\\', 'r']
  else if c = '\t' then ['\\', 't']
  else if c.toNat = 0 then ['\\', '0']
  else if inRanges glyphlessRanges c.toNat then codePoint c
  else [c]

/-- A text or a path as it is described. -/
def quote (s : String) : String :=
  String.ofList ('"' :: (s.toList.flatMap escape ++ ['"']))

end Stagecraft.Text
