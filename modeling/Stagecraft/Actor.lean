/-
Actors: images on the stage.

An actor refers to an image and is placed by its anchor, whose position it
keeps. The anchor is resolved against the size of the image at every access,
so the size is an argument here: when the image is resized the anchor stays
where it is and the edges move. Left and top edges follow from the anchor, and
every other edge, centre and point from the bounding box.
-/
import Stagecraft.Attribute

namespace Stagecraft

structure Size (α : Type) where
  width : α
  height : α
  deriving DecidableEq, Repr, Inhabited

/-- The place of an image among all images that were ever made. -/
structure ImageId where
  index : Nat
  deriving DecidableEq, Repr, Inhabited

/-- An image's name and its size. -/
structure Image (α : Type) where
  name : String
  size : Size α
  deriving DecidableEq, Repr, Inhabited

/-- An image on the stage. The position is that of the anchor; the angle is in
degrees, counter-clockwise. -/
structure Actor (α : Type) where
  image : ImageId
  anchorX : AnchorX α
  anchorY : AnchorY α
  posX : α
  posY : α
  angle : α
  opacity : α
  deriving DecidableEq, Repr

namespace Actor

variable {α : Type} [Scalar α]

open Scalar (half)

/-- An actor anchored at its centre, with its top left corner at the origin. -/
def new (image : ImageId) (s : Size α) : Actor α :=
  { image, anchorX := .center, anchorY := .center
    posX := half s.width, posY := half s.height, angle := 0.0, opacity := 1.0 }

-- ================================================================ anchor

def setAnchor (a : Actor α) (x : AnchorX α) (y : AnchorY α) : Actor α :=
  { a with anchorX := x, anchorY := y }

def setAnchorPoint (a : Actor α) (p : AnchorPoint) : Actor α :=
  a.setAnchor p.horizontal p.vertical

def setAnchorName (a : Actor α) (name : String) : Except (Fault α) (Actor α) :=
  (AnchorPoint.parse name).map a.setAnchorPoint

/-- The anchor of one name per axis; the first name is read first. -/
def setAnchorNames (a : Actor α) (x y : String) : Except (Fault α) (Actor α) := do
  let x ← AnchorX.parse x
  let y ← AnchorY.parse y
  return a.setAnchor x y

/-- The distances of the anchor from the left and top edges. -/
def anchorOffset (a : Actor α) (s : Size α) : α × α :=
  (a.anchorX.resolve s.width, a.anchorY.resolve s.height)

-- ============================================================== position

def pos (a : Actor α) : α × α := (a.posX, a.posY)

def setPos (a : Actor α) (p : α × α) : Actor α := { a with posX := p.1, posY := p.2 }

def left (a : Actor α) (s : Size α) : α := a.posX - (a.anchorOffset s).1

def top (a : Actor α) (s : Size α) : α := a.posY - (a.anchorOffset s).2

def setLeft (a : Actor α) (s : Size α) (v : α) : Actor α :=
  { a with posX := v + (a.anchorOffset s).1 }

def setTop (a : Actor α) (s : Size α) (v : α) : Actor α :=
  { a with posY := v + (a.anchorOffset s).2 }

def right (a : Actor α) (s : Size α) : α := a.left s + s.width

def bottom (a : Actor α) (s : Size α) : α := a.top s + s.height

def setRight (a : Actor α) (s : Size α) (v : α) : Actor α := a.setLeft s (v - s.width)

def setBottom (a : Actor α) (s : Size α) (v : α) : Actor α := a.setTop s (v - s.height)

def centerX (a : Actor α) (s : Size α) : α := a.left s + half s.width

def centerY (a : Actor α) (s : Size α) : α := a.top s + half s.height

def setCenterX (a : Actor α) (s : Size α) (v : α) : Actor α := a.setLeft s (v - half s.width)

def setCenterY (a : Actor α) (s : Size α) (v : α) : Actor α := a.setTop s (v - half s.height)

def topLeft (a : Actor α) (s : Size α) : α × α := (a.left s, a.top s)

/-- The bounding box. -/
def rect (a : Actor α) (s : Size α) : Rect α := ⟨a.left s, a.top s, s.width, s.height⟩

/-- Where an anchor point of the bounding box lies. -/
def point (a : Actor α) (s : Size α) (p : AnchorPoint) : α × α := (a.rect s).anchor p

/-- The actor moved so that an anchor point of the bounding box lies at `pos`. -/
def setPoint (a : Actor α) (s : Size α) (p : AnchorPoint) (pos : α × α) : Actor α :=
  let d := p.offset s.width s.height
  (a.setLeft s (pos.1 - d.1)).setTop s (pos.2 - d.2)

-- ============================================================ attributes

/-- The attributes of an actor: edges, centres, the anchor's position, angle,
opacity, and the anchor points of the bounding box. -/
def attr? (a : Actor α) (s : Size α) (name : String) : Option (AttrValue α) :=
  match name with
  | "x" | "left" => some (.scalar (a.left s))
  | "y" | "top" => some (.scalar (a.top s))
  | "posx" => some (.scalar a.posX)
  | "posy" => some (.scalar a.posY)
  | "pos" => some (.pair a.pos)
  | "angle" => some (.scalar a.angle)
  | "opacity" => some (.scalar a.opacity)
  | "right" => some (.scalar (a.right s))
  | "bottom" => some (.scalar (a.bottom s))
  | "centerx" => some (.scalar (a.centerX s))
  | "centery" => some (.scalar (a.centerY s))
  | other => (AnchorPoint.find? other).map fun p => .pair (a.point s p)

def setScalar (a : Actor α) (s : Size α) (name : String) (v : α) : Actor α :=
  match name with
  | "x" | "left" => a.setLeft s v
  | "y" | "top" => a.setTop s v
  | "posx" => { a with posX := v }
  | "posy" => { a with posY := v }
  | "angle" => { a with angle := v }
  | "opacity" => { a with opacity := v }
  | "right" => a.setRight s v
  | "bottom" => a.setBottom s v
  | "centerx" => a.setCenterX s v
  | "centery" => a.setCenterY s v
  | _ => a

def setPair (a : Actor α) (s : Size α) (name : String) (v : α × α) : Actor α :=
  if name = "pos" then a.setPos v
  else
    match AnchorPoint.find? name with
    | some p => a.setPoint s p v
    | none => a

def setAttr (a : Actor α) (s : Size α) (name : String) : AttrValue α → Actor α
  | .scalar v => a.setScalar s name v
  | .array [x, y] => a.setPair s name (x, y)
  | .array _ => a

/-- No attribute is the image. -/
theorem image_setAttr (a : Actor α) (s : Size α) (name : String) (v : AttrValue α) :
    (a.setAttr s name v).image = a.image := by
  unfold setAttr
  split
  · unfold setScalar; split <;> rfl
  · unfold setPair; split
    · rfl
    · split <;> rfl
  · rfl

end Actor

-- =============================================================== targets

/-- What an actor can measure a distance or an angle to. -/
inductive Target (α : Type) where
  | actor (a : Actor α)
  | point (x y : α)
  /-- A record with scalars `x` and `y`, which are 0 where they are missing. -/
  | record (m : AttributeMap α)
  /-- Anything else, which counts as the origin. -/
  | unknown

variable {α : Type}

/-- Where the target lies; an actor lies at its anchor. -/
def Target.position [Scalar α] : Target α → α × α
  | actor a => a.pos
  | point x y => (x, y)
  | record m =>
    let scalar (name : String) : α := ((AttributeMap.attr? m name).bind AttrValue.scalar?).getD 0.0
    (scalar "x", scalar "y")
  | unknown => (0.0, 0.0)

section Measure

variable [Elementary α]

open Elementary

def Actor.distanceTo (a : Actor α) (t : Target α) : α :=
  hypot (t.position.1 - a.posX) (a.posY - t.position.2)

/-- The angle to the target in degrees. The ordinate grows downward, so what is
straight above lies at 90 degrees. -/
def Actor.angleTo (a : Actor α) (t : Target α) : α :=
  Scalar.degreesOfRadians (atan2 (a.posY - t.position.2) (t.position.1 - a.posX))

end Measure

end Stagecraft
