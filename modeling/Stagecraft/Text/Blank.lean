/-
Blank characters, and text without them at its ends.

A character is blank when it has the Unicode property White_Space. Names are
looked up by their key: the name without blanks at its ends, in lower case.
Only the case of ASCII letters is changed. The names there are consist of
such letters, and of the other characters whose lower case has a letter of
ASCII in it, the Kelvin sign gives a `k`, which no name has, and the dotted
capital I gives an `i` with a dot beside it.
-/
namespace Stagecraft.Text

/-- The ranges of White_Space, both ends included. -/
def blankRanges : List (Nat × Nat) :=
  [(0x09, 0x0D), (0x20, 0x20), (0x85, 0x85), (0xA0, 0xA0), (0x1680, 0x1680),
   (0x2000, 0x200A), (0x2028, 0x2029), (0x202F, 0x202F), (0x205F, 0x205F),
   (0x3000, 0x3000)]

/-- Whether a code point lies in one of the ranges. -/
def inRanges (ranges : List (Nat × Nat)) (n : Nat) : Bool :=
  ranges.any fun r => decide (r.1 ≤ n ∧ n ≤ r.2)

/-- Whether the ranges are in ascending order and do not touch. -/
def ascending : List (Nat × Nat) → Bool
  | r :: s :: rest => decide (r.1 ≤ r.2 ∧ r.2 + 1 < s.1) && ascending (s :: rest)
  | [r] => decide (r.1 ≤ r.2)
  | [] => true

theorem ascending_blankRanges : ascending blankRanges = true := by decide

def isBlank (c : Char) : Bool := inRanges blankRanges c.toNat

theorem isBlank_of_isWhitespace {c : Char} (h : c.isWhitespace = true) : isBlank c = true := by
  simp only [Char.isWhitespace, Bool.or_eq_true, decide_eq_true_eq] at h
  rcases h with ((rfl | rfl) | rfl) | rfl <;> decide

/-- Without the characters at both ends that satisfy `p`. -/
def strip (p : Char → Bool) (cs : List Char) : List Char :=
  ((cs.dropWhile p).reverse.dropWhile p).reverse

/-- Without blanks at both ends. -/
def trim (cs : List Char) : List Char := strip isBlank cs

/-- The key of a name: trimmed and in lower case. -/
def key (name : String) : String := String.ofList ((trim name.toList).map Char.toLower)

end Stagecraft.Text
