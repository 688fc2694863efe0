/-
Patterns of text, and whether a text holds one.

A set of positions in a text of `n` characters is a number whose bits 0 to `n`
stand for the positions: before the first character, between two, and behind
the last one. `reach` says which positions a pattern leads to from the ones in
a set; it never tries one way after the other, so the time does not depend on
how many ways there are. A text holds a pattern if the pattern leads anywhere
from any position.
-/
import Stagecraft.Pattern.CharSet

namespace Stagecraft

/-- What a position between two characters may be. -/
inductive Edge where
  | textStart
  | textEnd
  /-- Behind a line feed; with `returns` also behind a carriage return without one. -/
  | lineStart (returns : Bool)
  /-- Before a line feed; with `returns` before a carriage return, and before a line feed
  without one. -/
  | lineEnd (returns : Bool)
  | wordEdge
  | noWordEdge
  | wordStart
  | wordEnd
  /-- No word goes before. -/
  | wordOpen
  /-- No word goes on. -/
  | wordClosed
  deriving DecidableEq, Repr

inductive Pattern where
  | empty
  /-- One character. -/
  | one (set : CharSet)
  | edge (e : Edge)
  | seq (p q : Pattern)
  | alt (p q : Pattern)
  /-- A number of times, without `most` as often as may be. -/
  | times (p : Pattern) (least : Nat) (most : Option Nat)
  deriving DecidableEq, Repr

namespace Edge

/-- Whether a character is a letter, a digit or an underscore of ASCII. -/
def isWord (c : Char) : Bool := c.isAlphanum || c == '_'

/-- Whether the position between two characters, none at the ends, is such an edge. -/
def holds (e : Edge) (before after : Option Char) : Bool :=
  let inWord := before.any isWord
  let toWord := after.any isWord
  match e with
  | textStart => before.isNone
  | textEnd => after.isNone
  | lineStart false => before.isNone || before == some '\n'
  | lineStart true =>
    before.isNone || before == some '\n' || before == some '\r' && after != some '\n'
  | lineEnd false => after.isNone || after == some '\n'
  | lineEnd true =>
    after.isNone || after == some '\r' || after == some '\n' && before != some '\r'
  | wordEdge => inWord != toWord
  | noWordEdge => inWord == toWord
  | wordStart => !inWord && toWord
  | wordEnd => inWord && !toWord
  | wordOpen => !inWord
  | wordClosed => !toWord

end Edge

namespace Pattern

-- ============================================================= positions

/-- The positions before a character that satisfies `p`. -/
def positions (p : Char → Bool) : List Char → Nat
  | [] => 0
  | c :: cs => (p c).toNat + 2 * positions p cs

/-- The positions that are an edge; `before` stands before the text. -/
def edges (e : Edge) (before : Option Char) : List Char → Nat
  | [] => (e.holds before none).toNat
  | c :: cs => (e.holds before (some c)).toNat + 2 * edges e (some c) cs

/-- All positions in a text of `n` characters. -/
def everywhere (n : Nat) : Nat := (1 <<< (n + 1)) - 1

-- ============================================================== matching

/-- Takes the same step a number of times, or until it leads nowhere new. -/
def repeated (step : Nat → Nat) : Nat → Nat → Nat
  | 0, s => s
  | n + 1, s =>
    let t := step s
    if t = s then s else repeated step n t

/-- What a step leads to when it is taken at most so many times. -/
def spread (step : Nat → Nat) (n s : Nat) : Nat := repeated (fun s => s ||| step s) n s

/-- The positions that a pattern leads to from those of a set. -/
def reach (text : List Char) : Pattern → Nat → Nat
  | empty, s => s
  | one set, s => 2 * (s &&& positions set.mem text)
  | edge e, s => s &&& edges e none text
  | seq p q, s => reach text q (reach text p s)
  | alt p q, s => reach text p s ||| reach text q s
  | times p least most, s =>
    let more := match most with
      | some most => most - least
      | none => text.length
    spread (reach text p) more (repeated (reach text p) least s)

/-- Whether the pattern occurs in a text. -/
def occursIn (p : Pattern) (text : String) : Bool :=
  reach text.toList p (everywhere text.toList.length) != 0

-- ================================================================== laws

theorem repeat_step (step : Nat → Nat) (n s : Nat) :
    Nat.repeat step (n + 1) s = Nat.repeat step n (step s) := by
  induction n with
  | zero => rfl
  | succ n ih =>
    show step (Nat.repeat step (n + 1) s) = step (Nat.repeat step n (step s))
    rw [ih]

/-- Stopping early changes nothing: a step that leads nowhere new can be left out. -/
theorem repeated_eq_repeat (step : Nat → Nat) (n s : Nat) :
    repeated step n s = Nat.repeat step n s := by
  induction n generalizing s with
  | zero => rfl
  | succ n ih =>
    rw [repeat_step, repeated, ← ih]
    by_cases h : step s = s
    · have hs : ∀ k, repeated step k s = s := by intro k; cases k <;> simp [repeated, h]
      simp only [h, if_true, hs]
    · simp only [h, if_false]

end Pattern

end Stagecraft
