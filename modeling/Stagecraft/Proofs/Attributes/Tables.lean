/-
The tables of attributes, in exact arithmetic.

A rectangle and an actor read their attributes with one table of names and
write them with two others, one for numbers and one for pairs. A name is
good for anything only if the tables agree on it, and nothing in the
operations says that they do. Here each name has its part, once
(`Rect.part?`, `Actor.part?`), and the tables are shown to read and write
that part, name by name (`attr?_eq`, `setAttr_eq`). What holds of all parts
then holds of all names.

# Spots

Most parts are spots of a box: a column, a row, or an anchor point. A
rectangle and an actor have the same spots under the same names
(`Spot.find?`), and each has parts of its own besides. A rectangle keeps its
corner, so the lens of a spot adds the distance of the spot from the corner
and takes it away. An actor keeps its anchor, so its lenses do the same
twice. That a number added and taken away is gone is where no digit may be
lost.
-/
import Stagecraft.Proofs.Exact
import Stagecraft.Actor
import Stagecraft.Proofs.Attributes.Lens

namespace Stagecraft

-- ================================================================= spots

/-- A spot of a box: a column, a row, or an anchor point. -/
inductive Spot (K : Type) where
  | column (x : AnchorX K)
  | row (y : AnchorY K)
  | point (p : AnchorPoint)

/-- The spot of a name. Anchor points have their names in any spelling, columns
and rows in one. -/
def Spot.find? {K : Type} (name : String) : Option (Spot K) :=
  match name with
  | "x" | "left" => some (.column .left)
  | "right" => some (.column .right)
  | "centerx" => some (.column .center)
  | "y" | "top" => some (.row .top)
  | "bottom" => some (.row .bottom)
  | "centery" => some (.row .center)
  | other => (AnchorPoint.find? other).map .point

/-- No column and no row has the name of an anchor point. -/
theorem Spot.find?_of_point {K : Type} {name : String} {p : AnchorPoint}
    (h : AnchorPoint.find? name = some p) : find? (K := K) name = some (.point p) := by
  unfold find?
  split
  case h_9 => rw [h]; rfl
  all_goals exact absurd h (by decide +revert)

variable {K : Type} [Field K] [LinearOrder K] [FloorRing K]

theorem AnchorX.resolve_left (width : K) : AnchorX.left.resolve width = 0 := Scalar.zero_exact

theorem AnchorY.resolve_top (height : K) : AnchorY.top.resolve height = 0 := Scalar.zero_exact

-- ============================================================ rectangles

namespace Rect

def columnLens (x : AnchorX K) : Lens (Rect K) K where
  get r := r.x + x.resolve r.width
  set r v := { r with x := v - x.resolve r.width }
  get_set r v := sub_add_cancel v _
  set_get r := by rw [add_sub_cancel_right]
  set_set _ _ _ := rfl

def rowLens (y : AnchorY K) : Lens (Rect K) K where
  get r := r.y + y.resolve r.height
  set r v := { r with y := v - y.resolve r.height }
  get_set r v := sub_add_cancel v _
  set_get r := by rw [add_sub_cancel_right]
  set_set _ _ _ := rfl

/-- An anchor point is a column and a row. -/
theorem anchor_eq (r : Rect K) (p : AnchorPoint) :
    r.anchor p = ((columnLens p.horizontal).get r, (rowLens p.vertical).get r) := by
  unfold anchor
  rw [AnchorPoint.offset_eq]
  rfl

theorem setAnchor_eq (r : Rect K) (p : AnchorPoint) (v : K × K) :
    r.setAnchor p v
      = (rowLens p.vertical).set ((columnLens p.horizontal).set r v.1) v.2 := by
  unfold setAnchor
  rw [AnchorPoint.offset_eq]
  rfl

def pointLens (p : AnchorPoint) : Lens (Rect K) (K × K) where
  get r := r.anchor p
  set r v := r.setAnchor p v
  get_set r v := by
    rw [setAnchor_eq, anchor_eq]
    exact Prod.ext ((columnLens p.horizontal).get_set r v.1) ((rowLens p.vertical).get_set r v.2)
  set_get r := by
    rw [anchor_eq, setAnchor_eq, (columnLens p.horizontal).set_get, (rowLens p.vertical).set_get]
  set_set r v w := by
    simp only [setAnchor_eq]
    rfl

def widthLens : Lens (Rect K) K where
  get := width
  set r v := { r with width := v }
  get_set _ _ := rfl
  set_get _ := rfl
  set_set _ _ _ := rfl

def heightLens : Lens (Rect K) K where
  get := height
  set r v := { r with height := v }
  get_set _ _ := rfl
  set_get _ := rfl
  set_set _ _ _ := rfl

def sizeLens : Lens (Rect K) (K × K) where
  get := size
  set := setSize
  get_set _ _ := rfl
  set_get _ := rfl
  set_set _ _ _ := rfl

def spotPart : Spot K → Part (Rect K) K
  | .column x => .scalar (columnLens x)
  | .row y => .scalar (rowLens y)
  | .point p => .pair (pointLens p)

/-- The part of a rectangle that a name stands for. -/
def part? (name : String) : Option (Part (Rect K) K) :=
  match name with
  | "width" => some (.scalar widthLens)
  | "height" => some (.scalar heightLens)
  | "size" => some (.pair sizeLens)
  | other => (Spot.find? other).map spotPart

/-- The rectangle answers with the values of its parts. -/
theorem attr?_eq (r : Rect K) (name : String) : r.attr? name = (part? name).map (Part.read r) := by
  have hleft : (columnLens .left).get r = r.x := by
    show r.x + AnchorX.left.resolve r.width = r.x
    rw [AnchorX.resolve_left, add_zero]
  have htop : (rowLens .top).get r = r.y := by
    show r.y + AnchorY.top.resolve r.height = r.y
    rw [AnchorY.resolve_top, add_zero]
  unfold attr?
  split
  case h_1 | h_2 => exact congrArg (some ∘ AttrValue.scalar) hleft.symm
  case h_3 | h_4 => exact congrArg (some ∘ AttrValue.scalar) htop.symm
  case h_12 =>
      have hpart : part? (K := K) name = (Spot.find? name).map spotPart := by simp [part?, *]
      have hspot : Spot.find? (K := K) name = (AnchorPoint.find? name).map .point := by
        simp [Spot.find?, *]
      rw [hpart, hspot]
      cases AnchorPoint.find? name with
      | none => rfl
      | some p => rfl
  all_goals rfl

theorem part?_of_point {name : String} {p : AnchorPoint} (h : AnchorPoint.find? name = some p) :
    part? (K := K) name = some (.pair (pointLens p)) := by
  unfold part?
  split
  case h_4 => rw [Spot.find?_of_point h]; rfl
  all_goals exact absurd h (by decide +revert)

theorem setScalar_eq (r : Rect K) (name : String) (v : K) :
    r.setScalar name v = (part? name).elim r fun p => p.write r (.scalar v) := by
  have hleft : (columnLens .left).set r v = r.setLeft v := by
    show Rect.mk (v - AnchorX.left.resolve r.width) r.y r.width r.height = r.setLeft v
    rw [AnchorX.resolve_left, sub_zero]
    rfl
  have htop : (rowLens .top).set r v = r.setTop v := by
    show Rect.mk r.x (v - AnchorY.top.resolve r.height) r.width r.height = r.setTop v
    rw [AnchorY.resolve_top, sub_zero]
    rfl
  unfold setScalar
  split
  case h_1 | h_2 => exact hleft.symm
  case h_3 | h_4 => exact htop.symm
  case h_11 =>
      have hspot : Spot.find? (K := K) name = (AnchorPoint.find? name).map .point := by
        simp [Spot.find?, *]
      unfold part?
      split
      case h_3 => rfl
      case h_4 =>
          rw [hspot]
          cases AnchorPoint.find? name with
          | none => rfl
          | some p => rfl
      all_goals contradiction
  all_goals rfl

theorem setPair_eq (r : Rect K) (name : String) (v : K × K) :
    r.setPair name v = (part? name).elim r fun p => p.write r (.pair v) := by
  unfold setPair
  split
  case isTrue hsize => rw [hsize]; rfl
  case isFalse hsize =>
      split
      case h_1 p hpoint => rw [part?_of_point hpoint]; rfl
      case h_2 hpoint =>
          -- columns, rows and sides are left, and they take no pair
          unfold part?
          split
          case h_3 => exact absurd rfl hsize
          case h_4 =>
              unfold Spot.find?
              split
              case h_9 => rw [hpoint]; rfl
              all_goals rfl
          all_goals rfl

/-- The rectangle gives its parts their values. -/
theorem setAttr_eq (r : Rect K) (name : String) (v : AttrValue K) :
    r.setAttr name v = (part? name).elim r fun p => p.write r v := by
  unfold setAttr
  split
  next x => exact setScalar_eq r name x
  next x y => exact setPair_eq r name (x, y)
  next xs hxs =>
      cases part? (K := K) name with
      | none => rfl
      | some p => exact (Part.write_array hxs p r).symm

end Rect

-- ================================================================ actors

namespace Actor

variable (s : Size K)

theorem left_setLeft (a : Actor K) (v : K) : (a.setLeft s v).left s = v :=
  add_sub_cancel_right v _

theorem top_setTop (a : Actor K) (v : K) : (a.setTop s v).top s = v :=
  add_sub_cancel_right v _

theorem setLeft_left (a : Actor K) : a.setLeft s (a.left s) = a := by
  unfold setLeft left
  rw [sub_add_cancel]

theorem setTop_top (a : Actor K) : a.setTop s (a.top s) = a := by
  unfold setTop top
  rw [sub_add_cancel]

def columnLens (x : AnchorX K) : Lens (Actor K) K where
  get a := a.left s + x.resolve s.width
  set a v := a.setLeft s (v - x.resolve s.width)
  get_set a v := by rw [left_setLeft, sub_add_cancel]
  set_get a := by rw [add_sub_cancel_right, setLeft_left]
  set_set _ _ _ := rfl

def rowLens (y : AnchorY K) : Lens (Actor K) K where
  get a := a.top s + y.resolve s.height
  set a v := a.setTop s (v - y.resolve s.height)
  get_set a v := by rw [top_setTop, sub_add_cancel]
  set_get a := by rw [add_sub_cancel_right, setTop_top]
  set_set _ _ _ := rfl

/-- An anchor point of the bounding box is a column and a row. -/
theorem point_eq (a : Actor K) (p : AnchorPoint) :
    a.point s p = ((columnLens s p.horizontal).get a, (rowLens s p.vertical).get a) :=
  (a.rect s).anchor_eq p

theorem setPoint_eq (a : Actor K) (p : AnchorPoint) (v : K × K) :
    a.setPoint s p v
      = (rowLens s p.vertical).set ((columnLens s p.horizontal).set a v.1) v.2 := by
  unfold setPoint
  rw [AnchorPoint.offset_eq]
  rfl

def pointLens (p : AnchorPoint) : Lens (Actor K) (K × K) where
  get a := a.point s p
  set a v := a.setPoint s p v
  get_set a v := by
    rw [setPoint_eq, point_eq]
    exact Prod.ext ((columnLens s p.horizontal).get_set a v.1)
      ((rowLens s p.vertical).get_set a v.2)
  set_get a := by
    rw [point_eq, setPoint_eq, (columnLens s p.horizontal).set_get,
      (rowLens s p.vertical).set_get]
  set_set a v w := by
    simp only [setPoint_eq]
    rfl

def posXLens : Lens (Actor K) K where
  get := posX
  set a v := { a with posX := v }
  get_set _ _ := rfl
  set_get _ := rfl
  set_set _ _ _ := rfl

def posYLens : Lens (Actor K) K where
  get := posY
  set a v := { a with posY := v }
  get_set _ _ := rfl
  set_get _ := rfl
  set_set _ _ _ := rfl

def posLens : Lens (Actor K) (K × K) where
  get := pos
  set := setPos
  get_set _ _ := rfl
  set_get _ := rfl
  set_set _ _ _ := rfl

def angleLens : Lens (Actor K) K where
  get := angle
  set a v := { a with angle := v }
  get_set _ _ := rfl
  set_get _ := rfl
  set_set _ _ _ := rfl

def opacityLens : Lens (Actor K) K where
  get := opacity
  set a v := { a with opacity := v }
  get_set _ _ := rfl
  set_get _ := rfl
  set_set _ _ _ := rfl

def spotPart : Spot K → Part (Actor K) K
  | .column x => .scalar (columnLens s x)
  | .row y => .scalar (rowLens s y)
  | .point p => .pair (pointLens s p)

/-- The part of an actor that a name stands for. -/
def part? (name : String) : Option (Part (Actor K) K) :=
  match name with
  | "posx" => some (.scalar posXLens)
  | "posy" => some (.scalar posYLens)
  | "pos" => some (.pair posLens)
  | "angle" => some (.scalar angleLens)
  | "opacity" => some (.scalar opacityLens)
  | other => (Spot.find? other).map (spotPart s)

/-- The actor answers with the values of its parts. -/
theorem attr?_eq (a : Actor K) (name : String) :
    a.attr? s name = (part? s name).map (Part.read a) := by
  have hleft : (columnLens s .left).get a = a.left s := by
    show a.left s + AnchorX.left.resolve s.width = a.left s
    rw [AnchorX.resolve_left, add_zero]
  have htop : (rowLens s .top).get a = a.top s := by
    show a.top s + AnchorY.top.resolve s.height = a.top s
    rw [AnchorY.resolve_top, add_zero]
  unfold attr?
  split
  case h_1 | h_2 => exact congrArg (some ∘ AttrValue.scalar) hleft.symm
  case h_3 | h_4 => exact congrArg (some ∘ AttrValue.scalar) htop.symm
  case h_14 =>
      have hpart : part? s name = (Spot.find? name).map (spotPart s) := by simp [part?, *]
      have hspot : Spot.find? (K := K) name = (AnchorPoint.find? name).map .point := by
        simp [Spot.find?, *]
      rw [hpart, hspot]
      cases AnchorPoint.find? name with
      | none => rfl
      | some p => rfl
  all_goals rfl

theorem part?_of_point {name : String} {p : AnchorPoint} (h : AnchorPoint.find? name = some p) :
    part? s name = some (.pair (pointLens s p)) := by
  unfold part?
  split
  case h_6 => rw [Spot.find?_of_point h]; rfl
  all_goals exact absurd h (by decide +revert)

theorem setScalar_eq (a : Actor K) (name : String) (v : K) :
    a.setScalar s name v = (part? s name).elim a fun p => p.write a (.scalar v) := by
  have hleft : (columnLens s .left).set a v = a.setLeft s v := by
    show a.setLeft s (v - AnchorX.left.resolve s.width) = a.setLeft s v
    rw [AnchorX.resolve_left, sub_zero]
  have htop : (rowLens s .top).set a v = a.setTop s v := by
    show a.setTop s (v - AnchorY.top.resolve s.height) = a.setTop s v
    rw [AnchorY.resolve_top, sub_zero]
  unfold setScalar
  split
  case h_1 | h_2 => exact hleft.symm
  case h_3 | h_4 => exact htop.symm
  case h_13 =>
      have hspot : Spot.find? (K := K) name = (AnchorPoint.find? name).map .point := by
        simp [Spot.find?, *]
      unfold part?
      split
      case h_3 => rfl
      case h_6 =>
          rw [hspot]
          cases AnchorPoint.find? name with
          | none => rfl
          | some p => rfl
      all_goals contradiction
  all_goals rfl

theorem setPair_eq (a : Actor K) (name : String) (v : K × K) :
    a.setPair s name v = (part? s name).elim a fun p => p.write a (.pair v) := by
  unfold setPair
  split
  case isTrue hpos => rw [hpos]; rfl
  case isFalse hpos =>
      split
      case h_1 p hpoint => rw [part?_of_point s hpoint]; rfl
      case h_2 hpoint =>
          unfold part?
          split
          case h_3 => exact absurd rfl hpos
          case h_6 =>
              unfold Spot.find?
              split
              case h_9 => rw [hpoint]; rfl
              all_goals rfl
          all_goals rfl

/-- The actor gives its parts their values. -/
theorem setAttr_eq (a : Actor K) (name : String) (v : AttrValue K) :
    a.setAttr s name v = (part? s name).elim a fun p => p.write a v := by
  unfold setAttr
  split
  next x => exact setScalar_eq s a name x
  next x y => exact setPair_eq s a name (x, y)
  next xs hxs =>
      cases part? s name with
      | none => rfl
      | some p => exact (Part.write_array hxs p a).symm

end Actor

end Stagecraft
