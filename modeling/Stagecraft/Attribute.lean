/-
Attributes: named numbers that an animation can move.

The value of an attribute is a scalar or a list of scalars, and the two never
mix: interpolation asks for values of one shape. What can be animated reports
the value under a name, if it has one, and takes a new value for it. A name
it does not know, or a value that does not suit the name, changes nothing.
-/
import Stagecraft.Geometry.Vec2
import Stagecraft.Geometry.Vec3
import Stagecraft.Geometry.Rect

namespace Stagecraft

/-- The value of an attribute. -/
inductive AttrValue (α : Type) where
  | scalar (value : α)
  | array (values : List α)
  deriving DecidableEq, Repr, Inhabited

variable {α : Type}

namespace AttrValue

/-- The value of a pair. -/
def pair (p : α × α) : AttrValue α := .array [p.1, p.2]

/-- Whether both are scalars, or lists of one length. -/
def sameShape : AttrValue α → AttrValue α → Bool
  | scalar _, scalar _ => true
  | array a, array b => a.length == b.length
  | _, _ => false

def scalar? : AttrValue α → Option α
  | scalar v => some v
  | array _ => none

def pair? : AttrValue α → Option (α × α)
  | array [a, b] => some (a, b)
  | _ => none

def triple? : AttrValue α → Option (α × α × α)
  | array [a, b, c] => some (a, b, c)
  | _ => none

/-- Whether the values have one shape and equal numbers in it. -/
def equal [BEq α] : AttrValue α → AttrValue α → Bool
  | scalar a, scalar b => a == b
  | array a, array b => a == b
  | _, _ => false

/-- The share `n` of the way from `start` to `stop`, number by number. Values of
different shapes have no way between them and give `stop`. -/
def interpolate [Scalar α] (start stop : AttrValue α) (n : α) : AttrValue α :=
  match start, stop with
  | scalar s, scalar e => scalar (s + (e - s) * n)
  | array s, array e => array (List.zipWith (fun s e => s + (e - s) * n) s e)
  | _, _ => stop

theorem sameShape_interpolate [Scalar α] {start stop : AttrValue α} (n : α)
    (h : sameShape start stop = true) : sameShape start (interpolate start stop n) = true := by
  cases start <;> cases stop <;> simp_all [sameShape, interpolate]

end AttrValue

-- ======================================================== attribute maps

/-- A free-form record: attributes by name, each name once. -/
abbrev AttributeMap (α : Type) := List (String × AttrValue α)

namespace AttributeMap

def attr? (m : AttributeMap α) (name : String) : Option (AttrValue α) :=
  (m.find? fun p => p.1 == name).map Prod.snd

/-- Gives a name that the map has a new value. -/
def setAttr (m : AttributeMap α) (name : String) (value : AttrValue α) : AttributeMap α :=
  m.map fun p => if p.1 == name then (p.1, value) else p

/-- Gives a name a value, whether the map has the name or not. -/
def insert (m : AttributeMap α) (name : String) (value : AttrValue α) : AttributeMap α :=
  if m.any (fun p => p.1 == name) then setAttr m name value else m ++ [(name, value)]

def erase (m : AttributeMap α) (name : String) : AttributeMap α :=
  m.filter fun p => p.1 != name

end AttributeMap

-- ============================================== vectors and rectangles

def Vec2.attr? (v : Vec2 α) : String → Option (AttrValue α)
  | "x" => some (.scalar v.x)
  | "y" => some (.scalar v.y)
  | _ => none

def Vec2.setAttr (v : Vec2 α) (name : String) (value : AttrValue α) : Vec2 α :=
  match name, value with
  | "x", .scalar k => { v with x := k }
  | "y", .scalar k => { v with y := k }
  | _, _ => v

def Vec3.attr? (v : Vec3 α) : String → Option (AttrValue α)
  | "x" => some (.scalar v.x)
  | "y" => some (.scalar v.y)
  | "z" => some (.scalar v.z)
  | _ => none

def Vec3.setAttr (v : Vec3 α) (name : String) (value : AttrValue α) : Vec3 α :=
  match name, value with
  | "x", .scalar k => { v with x := k }
  | "y", .scalar k => { v with y := k }
  | "z", .scalar k => { v with z := k }
  | _, _ => v

section Rect

variable [Scalar α]

/-- The attributes of a rectangle: its four numbers, edges, centres, size and
anchor points. -/
def Rect.attr? (r : Rect α) (name : String) : Option (AttrValue α) :=
  match name with
  | "x" | "left" => some (.scalar r.x)
  | "y" | "top" => some (.scalar r.y)
  | "width" => some (.scalar r.width)
  | "height" => some (.scalar r.height)
  | "right" => some (.scalar r.right)
  | "bottom" => some (.scalar r.bottom)
  | "centerx" => some (.scalar r.centerX)
  | "centery" => some (.scalar r.centerY)
  | "size" => some (.pair r.size)
  | other => (AnchorPoint.find? other).map fun p => .pair (r.anchor p)

def Rect.setScalar (r : Rect α) (name : String) (v : α) : Rect α :=
  match name with
  | "x" | "left" => r.setLeft v
  | "y" | "top" => r.setTop v
  | "width" => { r with width := v }
  | "height" => { r with height := v }
  | "right" => r.setRight v
  | "bottom" => r.setBottom v
  | "centerx" => r.setCenterX v
  | "centery" => r.setCenterY v
  | _ => r

def Rect.setPair (r : Rect α) (name : String) (v : α × α) : Rect α :=
  if name = "size" then r.setSize v
  else
    match AnchorPoint.find? name with
    | some p => r.setAnchor p v
    | none => r

def Rect.setAttr (r : Rect α) (name : String) : AttrValue α → Rect α
  | .scalar v => r.setScalar name v
  | .array [a, b] => r.setPair name (a, b)
  | .array _ => r

end Rect

end Stagecraft
