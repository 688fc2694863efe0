/-
Anchors: the points of a box that a position can refer to.

The nine anchor points are the pairs of a horizontal and a vertical anchor
that stand for an edge or the centre. An anchor of one axis may also be a
distance in pixels from the leading edge. An anchor is resolved against the
size of the box, and the centre of an odd size is rounded down. Where a point
is in a box can also be looked up without its anchors, in a table of its own;
both say the same (`AnchorPoint.offset_eq`).
-/
import Stagecraft.Fault
import Stagecraft.Text.Blank

namespace Stagecraft

/-- A horizontal anchor. -/
inductive AnchorX (α : Type) where
  | pixels (dx : α)
  | left
  | center
  | right
  deriving DecidableEq, Repr

/-- A vertical anchor. -/
inductive AnchorY (α : Type) where
  | pixels (dy : α)
  | top
  | center
  | bottom
  deriving DecidableEq, Repr

/-- The nine named points of a box. -/
inductive AnchorPoint where
  | topLeft
  | midTop
  | topRight
  | midLeft
  | center
  | midRight
  | bottomLeft
  | midBottom
  | bottomRight
  deriving DecidableEq, Repr

variable {α : Type}

-- ============================================================== one axis

namespace AnchorX

/-- The distance of the anchor from the left edge of a box. -/
def resolve [Scalar α] (width : α) : AnchorX α → α
  | pixels dx => dx
  | left => 0.0
  | center => Scalar.half width
  | right => width

def expected : String := "\"left\", \"center\", \"middle\", or \"right\""

/-- The anchor of a name, in any case and with blanks around it. -/
def parse (name : String) : Except (Fault α) (AnchorX α) :=
  match Text.key name with
  | "left" => .ok left
  | "center" | "middle" => .ok center
  | "right" => .ok right
  | _ => .error (.unknownAnchor name expected)

end AnchorX

namespace AnchorY

/-- The distance of the anchor from the top edge of a box. -/
def resolve [Scalar α] (height : α) : AnchorY α → α
  | pixels dy => dy
  | top => 0.0
  | center => Scalar.half height
  | bottom => height

def expected : String := "\"top\", \"center\", \"middle\", or \"bottom\""

/-- The anchor of a name, in any case and with blanks around it. -/
def parse (name : String) : Except (Fault α) (AnchorY α) :=
  match Text.key name with
  | "top" => .ok top
  | "center" | "middle" => .ok center
  | "bottom" => .ok bottom
  | _ => .error (.unknownAnchor name expected)

end AnchorY

-- ======================================================= the nine points

namespace AnchorPoint

def all : List AnchorPoint :=
  [topLeft, midTop, topRight, midLeft, center, midRight, bottomLeft, midBottom, bottomRight]

def name : AnchorPoint → String
  | topLeft => "topleft"
  | midTop => "midtop"
  | topRight => "topright"
  | midLeft => "midleft"
  | center => "center"
  | midRight => "midright"
  | bottomLeft => "bottomleft"
  | midBottom => "midbottom"
  | bottomRight => "bottomright"

/-- The horizontal anchor of the point. -/
def horizontal : AnchorPoint → AnchorX α
  | topLeft | midLeft | bottomLeft => .left
  | midTop | center | midBottom => .center
  | topRight | midRight | bottomRight => .right

/-- The vertical anchor of the point. -/
def vertical : AnchorPoint → AnchorY α
  | topLeft | midTop | topRight => .top
  | midLeft | center | midRight => .center
  | bottomLeft | midBottom | bottomRight => .bottom

/-- The distances of the point from the left and top edges of a box. -/
def offset [Scalar α] (p : AnchorPoint) (width height : α) : α × α :=
  let dx := match p with
    | topLeft | midLeft | bottomLeft => 0.0
    | midTop | center | midBottom => Scalar.half width
    | topRight | midRight | bottomRight => width
  let dy := match p with
    | topLeft | midTop | topRight => 0.0
    | midLeft | center | midRight => Scalar.half height
    | bottomLeft | midBottom | bottomRight => height
  (dx, dy)

def expected : String :=
  "\"topleft\", \"midtop\", \"topright\", \"midleft\", \"center\", \"midright\", " ++
    "\"bottomleft\", \"midbottom\", or \"bottomright\""

/-- The point of a name, in any case and with blanks around it. -/
def find? (name : String) : Option AnchorPoint :=
  let key := Text.key name
  all.find? fun p => p.name == key

def parse (name : String) : Except (Fault α) AnchorPoint :=
  match find? name with
  | some p => .ok p
  | none => .error (.unknownAnchor name expected)

/-- The point is as far from the edges as the anchors of its name. -/
theorem offset_eq [Scalar α] (p : AnchorPoint) (width height : α) :
    p.offset width height = (p.horizontal.resolve width, p.vertical.resolve height) := by
  cases p <;> rfl

theorem mem_all (p : AnchorPoint) : p ∈ all := by cases p <;> decide

theorem name_injective {p q : AnchorPoint} (h : p.name = q.name) : p = q := by
  cases p <;> cases q <;> first | rfl | exact absurd h (by decide)

end AnchorPoint

end Stagecraft
