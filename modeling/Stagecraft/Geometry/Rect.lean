/-
Rectangles along the axes.

A rectangle keeps its top left corner and its size, which may be negative.
Edges, centres and the nine anchor points are read off these four numbers,
and setting one of them moves the rectangle and never resizes it. The right
and bottom edges do not belong to the rectangle.
-/
import Stagecraft.Geometry.Anchor

namespace Stagecraft

structure Rect (α : Type) where
  x : α
  y : α
  width : α
  height : α
  deriving DecidableEq, Repr, Inhabited

namespace Rect

variable {α : Type} [Scalar α]

open Scalar

/-- The rectangle at a position with a size. -/
def ofPosSize (pos size : α × α) : Rect α := ⟨pos.1, pos.2, size.1, size.2⟩

def zero : Rect α := ⟨0.0, 0.0, 0.0, 0.0⟩

/-- Whether the four numbers are equal. -/
def equal (r s : Rect α) : Bool :=
  r.x == s.x && r.y == s.y && r.width == s.width && r.height == s.height

-- ================================================================= edges

def right (r : Rect α) : α := r.x + r.width

def bottom (r : Rect α) : α := r.y + r.height

def centerX (r : Rect α) : α := r.x + half r.width

def centerY (r : Rect α) : α := r.y + half r.height

def setLeft (r : Rect α) (v : α) : Rect α := { r with x := v }

def setTop (r : Rect α) (v : α) : Rect α := { r with y := v }

def setRight (r : Rect α) (v : α) : Rect α := { r with x := v - r.width }

def setBottom (r : Rect α) (v : α) : Rect α := { r with y := v - r.height }

def setCenterX (r : Rect α) (v : α) : Rect α := { r with x := v - half r.width }

def setCenterY (r : Rect α) (v : α) : Rect α := { r with y := v - half r.height }

-- ========================================================= anchor points

/-- Where an anchor point of the rectangle lies. -/
def anchor (r : Rect α) (p : AnchorPoint) : α × α :=
  let d := p.offset r.width r.height
  (r.x + d.1, r.y + d.2)

/-- The rectangle moved so that an anchor point lies at `pos`. -/
def setAnchor (r : Rect α) (p : AnchorPoint) (pos : α × α) : Rect α :=
  let d := p.offset r.width r.height
  { r with x := pos.1 - d.1, y := pos.2 - d.2 }

def anchorByName (r : Rect α) (name : String) : Except (Fault α) (α × α) :=
  (AnchorPoint.parse name).map r.anchor

def size (r : Rect α) : α × α := (r.width, r.height)

def setSize (r : Rect α) (s : α × α) : Rect α := { r with width := s.1, height := s.2 }

-- ================================================= movement and resizing

def moved (r : Rect α) (dx dy : α) : Rect α := ⟨r.x + dx, r.y + dy, r.width, r.height⟩

/-- The rectangle grown by a width and a height around its centre. -/
def inflate (r : Rect α) (dx dy : α) : Rect α :=
  ⟨r.x - half dx, r.y - half dy, r.width + dx, r.height + dy⟩

/-- Where a segment starts once it is moved into another one; a segment that
is not the shorter one is centred over the other. -/
def clampAxis (start length otherStart otherLength : α) : α :=
  if otherLength ≤ length then otherStart + half otherLength - half length
  else if start < otherStart then otherStart
  else if otherStart + otherLength < start + length then otherStart + otherLength - length
  else start

/-- The rectangle moved into another one, axis by axis. -/
def clamp (r area : Rect α) : Rect α :=
  ⟨clampAxis r.x r.width area.x area.width, clampAxis r.y r.height area.y area.height,
    r.width, r.height⟩

/-- Start and length of what two segments have in common, if that is longer
than nothing. -/
def clipAxis (a aLength b bLength : α) : Option (α × α) :=
  let aEnd := a + aLength
  let bEnd := b + bLength
  let start? := if b ≤ a ∧ a < bEnd then some a
    else if a ≤ b ∧ b < aEnd then some b
    else none
  start?.bind fun start =>
    let length? := if b < aEnd ∧ aEnd ≤ bEnd then some (aEnd - start)
      else if a < bEnd ∧ bEnd ≤ aEnd then some (bEnd - start)
      else none
    length?.bind fun length => if length ≤ 0.0 then none else some (start, length)

/-- What the rectangles have in common; nothing is a rectangle of size zero
at the origin of the first. -/
def clip (r s : Rect α) : Rect α :=
  match clipAxis r.x r.width s.x s.width, clipAxis r.y r.height s.y s.height with
  | some (x, width), some (y, height) => ⟨x, y, width, height⟩
  | _, _ => ⟨r.x, r.y, 0.0, 0.0⟩

/-- The smallest rectangle that covers both. -/
def union (r s : Rect α) : Rect α :=
  let x := minimum r.x s.x
  let y := minimum r.y s.y
  ⟨x, y, maximum r.right s.right - x, maximum r.bottom s.bottom - y⟩

/-- The smallest rectangle that covers this one and all of `others`. -/
def unionAll (r : Rect α) (others : List (Rect α)) : Rect α := others.foldl union r

/-- The rectangle scaled down to the size of the target, keeping the ratio of
its sides up to a whole number, and centred over it. -/
def fit (r target : Rect α) : Rect α :=
  let ratio := maximum (maximum (r.width / target.width) (r.height / target.height)) 1.0
  let width := floor (r.width / ratio)
  let height := floor (r.height / ratio)
  ⟨target.x + half (target.width - width), target.y + half (target.height - height),
    width, height⟩

/-- The rectangle described with sizes that are not negative. -/
def normalize (r : Rect α) : Rect α :=
  let r := if r.width < 0.0 then { r with x := r.x + r.width, width := -r.width } else r
  if r.height < 0.0 then { r with y := r.y + r.height, height := -r.height } else r

-- ============================================================= collision

/-- Whether `s` lies inside this rectangle, edges included; `s` has to begin
before the right and bottom edges. -/
def contains (r s : Rect α) : Bool :=
  decide (r.x ≤ s.x) && decide (r.y ≤ s.y) && decide (s.right ≤ r.right) &&
    decide (s.bottom ≤ r.bottom) && decide (s.x < r.right) && decide (s.y < r.bottom)

/-- Whether a point lies inside; the right and bottom edges are outside. -/
def containsPoint (r : Rect α) (x y : α) : Bool :=
  decide (r.x ≤ x) && decide (x < r.right) && decide (r.y ≤ y) && decide (y < r.bottom)

/-- Whether the rectangles overlap. One without width or height overlaps
nothing. -/
def collides (r s : Rect α) : Bool :=
  if r.width == 0.0 || r.height == 0.0 || s.width == 0.0 || s.height == 0.0 then false
  else
    decide (r.x < s.right) && decide (r.y < s.bottom) && decide (s.x < r.right) &&
      decide (s.y < r.bottom)

/-- The index of the first rectangle that collides. -/
def firstCollision (r : Rect α) (others : List (Rect α)) : Option Nat :=
  others.findIdx? r.collides

/-- The indices of all rectangles that collide, in order. -/
def collisions (r : Rect α) (others : List (Rect α)) : List Nat :=
  (others.zipIdx.filter fun p => r.collides p.1).map Prod.snd

/-- The first item whose rectangle collides. -/
def firstColliding {β : Type} (r : Rect α) (rectOf : β → Rect α) (items : List β) : Option β :=
  items.find? fun i => r.collides (rectOf i)

/-- All items whose rectangle collides, in order. -/
def colliding {β : Type} (r : Rect α) (rectOf : β → Rect α) (items : List β) : List β :=
  items.filter fun i => r.collides (rectOf i)

end Rect

end Stagecraft
