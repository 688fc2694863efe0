/-
Pieces of a pattern that is read, with what their use is limited by.

A pattern may not be nested too deeply, and may not weigh too much. What words
are is known for ASCII only, so a pattern that asks for other words is no
pattern; a piece that is used no times asks for nothing.
-/
import Stagecraft.Pattern
import Stagecraft.Pattern.Weight

namespace Stagecraft.Pattern

/-- A part of a pattern. -/
structure Piece where
  pattern : Pattern
  depth : Nat := 0
  weight : Weight := .both 0
  /-- Whether it asks for words beyond ASCII. -/
  asksWords : Bool := false
  /-- Whether it may be repeated. -/
  stands : Bool := true
  deriving Repr

/-- Whether a pattern leads to no other position. -/
def isStill : Pattern → Bool
  | empty | edge _ => true
  | one _ => false
  | seq p q | alt p q => p.isStill && q.isStill
  | times p _ most => p.isStill || most == some 0

/-- Whether a pattern may lead to the position that it starts from. -/
def mayStay : Pattern → Bool
  | empty | edge _ => true
  | one _ => false
  | seq p q => p.mayStay && q.mayStay
  | alt p q => p.mayStay || q.mayStay
  | times p least _ => p.mayStay || least == 0

namespace Piece

open Weight (state way)

/-- A single character. -/
def ofChar (c : Char) : Piece :=
  { pattern := .one (.single c), weight := .both (state * c.utf8Size) }

/-- A character of a set, which is nested so deeply. -/
def ofSet (s : CharSet) (depth : Nat := 0) : Piece :=
  match s with
  | [(lo, hi)] =>
    if lo = hi then { ofChar (Char.ofNat lo) with depth }
    else { pattern := .one s, depth, weight := .ofSet s }
  | _ => { pattern := .one s, depth, weight := .ofSet s }

def ofEdge (e : Edge) : Piece := { pattern := .edge e, weight := .both state }

/-- An edge of words beyond ASCII. -/
def unknownEdge : Piece := { pattern := .empty, asksWords := true, weight := .both state }

/-- What is no part of a text and cannot be repeated. -/
def setting : Piece := { pattern := .empty, stands := false }

/-- A piece in brackets, which counts for more where it is remembered what was found. -/
def group (p : Piece) (remembered : Bool) : Piece :=
  { p with
    depth := p.depth + 1
    weight := if remembered then p.weight.add ⟨2 * state, 0⟩ else p.weight
    stands := true }

def deepest (ps : List Piece) : Nat := ps.foldl (fun d p => max d p.depth) 0

def totalWeight (ps : List Piece) : Weight := ps.foldl (fun w p => w.add p.weight) (.both 0)

/-- One piece behind the other. -/
def inOrder : List Piece → Piece
  | [] => { pattern := .empty }
  | [p] => p
  | p :: ps =>
    { pattern := ps.foldl (fun q p => .seq q p.pattern) p.pattern
      depth := deepest (p :: ps) + 1
      weight := totalWeight (p :: ps)
      asksWords := (p :: ps).any asksWords }

/-- The set of a piece that is one character. -/
def set? (p : Piece) : Option CharSet :=
  match p.pattern with
  | .one s => some s
  | _ => none

/-- Any one of the pieces. Characters together make a set. -/
def oneOf : List Piece → Piece
  | [] => { pattern := .empty }
  | [p] => p
  | p :: ps =>
    let depth := deepest (p :: ps) + 1
    match (p :: ps).mapM set? with
    | some sets => ofSet (sets.foldl .union []) depth
    | none =>
      { pattern := ps.foldl (fun q p => .alt q p.pattern) p.pattern
        depth
        weight := (totalWeight (p :: ps)).add (.both (2 * state + way * (ps.length + 1)))
        asksWords := (p :: ps).any asksWords }

/-- A piece a number of times. What leads to no other position need not be taken more than
once. -/
def times (p : Piece) (least : Nat) (most : Option Nat) : Piece :=
  let least := if p.pattern.isStill then min least 1 else least
  let most := if p.pattern.isStill then some (min (most.getD 1) 1) else most
  let depth := p.depth + 1
  if most = some 0 then { pattern := .empty, depth }
  else
    { pattern := .times p.pattern least most
      depth
      weight := p.weight.map (Weight.times p.pattern.mayStay least most)
      asksWords := p.asksWords }

/-- The greatest depth that a pattern may have. -/
def maxDepth : Nat := 250

def isAllowed (p : Piece) : Bool :=
  decide (p.depth ≤ maxDepth) && p.weight.isAllowed && !p.asksWords

end Piece

end Stagecraft.Pattern
