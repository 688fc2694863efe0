/-
JSON strings in ASCII.

A character outside of printable ASCII is written as the escape of its 16-bit
unit, or as those of the two halves of its surrogate pair.
-/
namespace Stagecraft.Json

/-- The escape of a 16-bit unit. -/
def unitText (n : Nat) : List Char :=
  let ds := Nat.toDigits 16 n
  ['\\', 'u'] ++ List.replicate (4 - ds.length) '0' ++ ds

/-- A character inside of a string. -/
def charText (c : Char) : List Char :=
  let n := c.toNat
  if c = '"' ∨ c = '\\' then ['\\', c]
  else if 0x20 ≤ n ∧ n < 0x7F then [c]
  else if n < 0x10000 then unitText n
  else unitText (0xD800 + (n - 0x10000) / 0x400) ++ unitText (0xDC00 + (n - 0x10000) % 0x400)

/-- A string with its quotes. -/
def writeText (s : String) : String :=
  String.ofList ('"' :: (s.toList.flatMap charText ++ ['"']))

end Stagecraft.Json
