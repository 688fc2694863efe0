/-
Rectangles and actors along their axes, in exact arithmetic.

A rectangle has two axes, and a length along each of them. Columns are marks
across, rows are marks down, and anchor points are both; the sizes are the
lengths (`Rect.hold`). So whether the values of a rectangle are all had in
the end depends on the order in which sizes and spots are written
(`Rect.Settles`).

An actor has the size of its image, and what no attribute changes is pinned.
With that, each of its attributes goes with one or two of the four numbers
that it keeps (`Actor.coordinates`), which are marks without any length. So
the values of an actor are had in any order.
-/
import Stagecraft.Proofs.Attributes.Axes

namespace Stagecraft

variable {K : Type} [Field K] [LinearOrder K] [FloorRing K]

-- ============================================================ rectangles

namespace Rect

inductive Axis where
  | across
  | down
  deriving DecidableEq

theorem Axis.forall_iff {P : Axis → Prop} : (∀ i, P i) ↔ P across ∧ P down :=
  ⟨fun h => ⟨h across, h down⟩, fun h i => by
    cases i with
    | across => exact h.1
    | down => exact h.2⟩

def segment (r : Rect K) : Axis → Segment K
  | .across => ⟨r.x, r.width⟩
  | .down => ⟨r.y, r.height⟩

/-- A column or a row is a mark on one of the axes, an anchor point on both. -/
def spotHold : Spot K → Axis → Hold K
  | .column x, .across => .mark fun width => x.resolve width
  | .row y, .down => .mark fun height => y.resolve height
  | .point p, .across => .mark fun width => p.horizontal.resolve width
  | .point p, .down => .mark fun height => p.vertical.resolve height
  | .column _, .down | .row _, .across => .nothing

/-- What an attribute of a rectangle is along its axes. -/
def hold (name : String) (axis : Axis) : Hold K :=
  match name with
  | "width" => if axis = .across then .length else .nothing
  | "height" => if axis = .down then .length else .nothing
  | "size" => .length
  | other => (Spot.find? other).elim .nothing (spotHold · axis)

theorem takes_spotPart (spot : Spot K) (b goal : Rect K) :
    (spotPart spot).Takes segment (spotHold spot) b goal := by
  have hput (i : Axis) : segment ((spotPart spot).write b ((spotPart spot).read goal)) i
      = (spotHold spot i).put (segment goal i) (segment b i) := by
    cases spot with
    | column x | row y => cases i <;> rfl
    | point p =>
        show segment (b.setAnchor p (goal.anchor p)) i = _
        rw [setAnchor_eq, anchor_eq]
        cases i <;> rfl
  cases spot with
  | column x =>
      refine Part.takes_scalar hput ?_
      rw [Axis.forall_iff]
      exact (and_iff_left trivial).symm
  | row y =>
      refine Part.takes_scalar hput ?_
      rw [Axis.forall_iff]
      exact (and_iff_right trivial).symm
  | point p =>
      refine Part.takes_pair hput ?_
      show (b.anchor p).1 = (goal.anchor p).1 ∧ (b.anchor p).2 = (goal.anchor p).2 ↔ _
      rw [Axis.forall_iff, anchor_eq, anchor_eq]
      rfl

theorem takes_part {name : String} {p : Part (Rect K) K} (h : part? name = some p)
    (b goal : Rect K) : p.Takes segment (hold name) b goal := by
  unfold part? at h
  split at h
  case h_1 =>
      cases h
      refine Part.takes_scalar (fun i => by cases i <;> rfl) ?_
      rw [Axis.forall_iff]
      exact (and_iff_left trivial).symm
  case h_2 =>
      cases h
      refine Part.takes_scalar (fun i => by cases i <;> rfl) ?_
      rw [Axis.forall_iff]
      exact (and_iff_right trivial).symm
  case h_3 =>
      cases h
      refine Part.takes_pair (fun i => by cases i <;> rfl) ?_
      rw [Axis.forall_iff]
      rfl
  case h_4 =>
      obtain ⟨spot, hspot, rfl⟩ := Option.map_eq_some_iff.1 h
      have hhold : hold name = spotHold spot := by
        funext axis
        simp [hold, *]
      rw [hhold]
      exact takes_spotPart spot b goal

theorem hold_of_no_part {name : String} (h : part? (K := K) name = none) :
    hold (K := K) name = fun _ => .nothing := by
  unfold part? at h
  split at h
  case h_4 =>
      have hspot : Spot.find? (K := K) name = none := Option.map_eq_none_iff.1 h
      funext axis
      simp [hold, *]
  all_goals cases h

theorem hasAxes : HasAxes (attr? (α := K)) setAttr (fun _ => ()) segment hold :=
  hasAxes_of_parts part? attr?_eq setAttr_eq (fun _ _ _ => rfl) (fun _ => hold_of_no_part)
    fun _ _ h b goal _ => takes_part h b goal

/-- Whether a rectangle settles at a goal when it takes the goal's values for these names
in this order. -/
def Settles (names : List String) (r goal : Rect K) : Prop :=
  ∀ i, Hold.Settles (names.map (hold · i)) (r.segment i).length (goal.segment i).length

/-- Spots alone settle in any order: they move the rectangle, which has its size. -/
theorem settles_of_same_size (names : List String) {r goal : Rect K} (h : goal.size = r.size) :
    Settles names r goal := by
  intro i
  have hlength : (goal.segment i).length = (r.segment i).length := by
    cases i with
    | across => exact congrArg Prod.fst h
    | down => exact congrArg Prod.snd h
  rw [hlength]
  exact .of_same _

/-- With the sizes in front of all spots, and each of them written unless it is right
already, the order of the rest does not matter. -/
theorem settles_of_sizes_first {sizes spots : List String} {r goal : Rect K}
    (hsizes : ∀ name ∈ sizes, name ∈ ["width", "height", "size"])
    (hwritten : ∀ i, (goal.segment i).length = (r.segment i).length
      ∨ .length ∈ sizes.map (hold (K := K) · i)) :
    Settles (sizes ++ spots) r goal := by
  intro i
  rcases hwritten i with hsame | hlength
  · rw [hsame]
    exact .of_same _
  · rw [List.map_append]
    refine .of_length_first hlength ?_
    rw [List.forall_mem_map]
    intro name hname
    have hcases := hsizes name hname
    simp only [List.mem_cons, List.not_mem_nil, or_false] at hcases
    rcases hcases with rfl | rfl | rfl <;> cases i <;> rfl

end Rect

-- ================================================================ actors

namespace Actor

/-- A number that an actor keeps and attributes change. -/
inductive Coordinate where
  | posX
  | posY
  | angle
  | opacity
  deriving DecidableEq

def value (a : Actor K) : Coordinate → K
  | .posX => a.posX
  | .posY => a.posY
  | .angle => a.angle
  | .opacity => a.opacity

/-- An actor has no length along its axes. -/
def segment (a : Actor K) (i : Coordinate) : Segment K := ⟨a.value i, 0⟩

/-- The numbers that a spot goes with. -/
def spotCoordinates : Spot K → List Coordinate
  | .column _ => [.posX]
  | .row _ => [.posY]
  | .point _ => [.posX, .posY]

variable (K) in
/-- The numbers that an attribute goes with. -/
def coordinates (name : String) : List Coordinate :=
  match name with
  | "posx" => [.posX]
  | "posy" => [.posY]
  | "pos" => [.posX, .posY]
  | "angle" => [.angle]
  | "opacity" => [.opacity]
  | other => (Spot.find? (K := K) other).elim [] spotCoordinates

/-- Marks that are where the number is. -/
def holdOf (l : List Coordinate) (i : Coordinate) : Hold K :=
  if i ∈ l then .mark fun _ => 0 else .nothing

/-- What no attribute changes. -/
def pinned (a : Actor K) : ImageId × AnchorX K × AnchorY K := (a.image, a.anchorX, a.anchorY)

theorem pinned_setAttr (s : Size K) (a : Actor K) (name : String) (v : AttrValue K) :
    (a.setAttr s name v).pinned = a.pinned := by
  unfold setAttr
  split
  · unfold setScalar; split <;> rfl
  · unfold setPair; split
    · rfl
    · split <;> rfl
  · rfl

variable {s : Size K} {b goal c : Actor K} {l : List Coordinate}

omit [LinearOrder K] [FloorRing K] in
theorem put_holdOf (h : ∀ i, c.value i = if i ∈ l then goal.value i else b.value i)
    (i : Coordinate) : c.segment i = (holdOf l i).put (goal.segment i) (b.segment i) := by
  unfold segment holdOf
  rw [h]
  split
  · simp [Hold.put]
  · rfl

omit [LinearOrder K] [FloorRing K] in
theorem meets_holdOf_iff :
    (∀ i, (holdOf l i).Meets (goal.segment i) (b.segment i))
      ↔ ∀ i ∈ l, b.value i = goal.value i := by
  refine forall_congr' fun i => ?_
  unfold holdOf
  by_cases hi : i ∈ l
  · rw [if_pos hi]
    simp [Hold.Meets, segment, hi]
  · rw [if_neg hi]
    exact iff_of_true trivial fun hmem => absurd hmem hi

theorem anchorOffset_of_pinned (h : b.pinned = goal.pinned) :
    b.anchorOffset s = goal.anchorOffset s := by
  simp only [pinned, Prod.mk.injEq] at h
  unfold anchorOffset
  rw [h.2.1, h.2.2]

theorem columnLens_get_eq_iff (x : AnchorX K) (h : b.pinned = goal.pinned) :
    (columnLens s x).get b = (columnLens s x).get goal ↔ b.posX = goal.posX := by
  dsimp only [columnLens, left]
  rw [anchorOffset_of_pinned h, add_left_inj, sub_left_inj]

theorem columnLens_set_get (x : AnchorX K) (h : b.pinned = goal.pinned) :
    (columnLens s x).set b ((columnLens s x).get goal) = { b with posX := goal.posX } := by
  dsimp only [columnLens, setLeft, left]
  rw [add_sub_cancel_right, anchorOffset_of_pinned h, sub_add_cancel]

theorem rowLens_get_eq_iff (y : AnchorY K) (h : b.pinned = goal.pinned) :
    (rowLens s y).get b = (rowLens s y).get goal ↔ b.posY = goal.posY := by
  dsimp only [rowLens, top]
  rw [anchorOffset_of_pinned h, add_left_inj, sub_left_inj]

theorem rowLens_set_get (y : AnchorY K) (h : b.pinned = goal.pinned) :
    (rowLens s y).set b ((rowLens s y).get goal) = { b with posY := goal.posY } := by
  dsimp only [rowLens, setTop, top]
  rw [add_sub_cancel_right, anchorOffset_of_pinned h, sub_add_cancel]

/-- An anchor point is a column and then a row. -/
theorem pointLens_set_get (p : AnchorPoint) (h : b.pinned = goal.pinned) :
    (pointLens s p).set b ((pointLens s p).get goal)
      = { b with posX := goal.posX, posY := goal.posY } := by
  calc (pointLens s p).set b ((pointLens s p).get goal)
      = (rowLens s p.vertical).set
          ((columnLens s p.horizontal).set b ((columnLens s p.horizontal).get goal))
          ((rowLens s p.vertical).get goal) := by
        show b.setPoint s p (goal.point s p) = _
        rw [setPoint_eq, point_eq]
    _ = (rowLens s p.vertical).set { b with posX := goal.posX }
          ((rowLens s p.vertical).get goal) := by rw [columnLens_set_get _ h]
    _ = { b with posX := goal.posX, posY := goal.posY } := rowLens_set_get _ h

theorem takes_spotPart (spot : Spot K) (h : b.pinned = goal.pinned) :
    (spotPart s spot).Takes segment (holdOf (spotCoordinates spot)) b goal := by
  cases spot with
  | column x =>
      refine Part.takes_scalar (put_holdOf fun i => ?_) (Iff.trans ?_ meets_holdOf_iff.symm)
      · rw [columnLens_set_get x h]
        cases i <;> rfl
      · exact (columnLens_get_eq_iff x h).trans (by simp [spotCoordinates, value])
  | row y =>
      refine Part.takes_scalar (put_holdOf fun i => ?_) (Iff.trans ?_ meets_holdOf_iff.symm)
      · rw [rowLens_set_get y h]
        cases i <;> rfl
      · exact (rowLens_get_eq_iff y h).trans (by simp [spotCoordinates, value])
  | point p =>
      refine Part.takes_pair (put_holdOf fun i => ?_) (Iff.trans ?_ meets_holdOf_iff.symm)
      · rw [pointLens_set_get p h]
        cases i <;> rfl
      · have hcolumn := columnLens_get_eq_iff (s := s) p.horizontal h
        have hrow := rowLens_get_eq_iff (s := s) p.vertical h
        show (b.point s p).1 = (goal.point s p).1 ∧ (b.point s p).2 = (goal.point s p).2 ↔ _
        rw [point_eq, point_eq]
        exact (and_congr hcolumn hrow).trans (by simp [spotCoordinates, value])

theorem takes_part {name : String} {p : Part (Actor K) K} (hp : part? s name = some p)
    (h : b.pinned = goal.pinned) : p.Takes segment (holdOf (coordinates K name)) b goal := by
  unfold part? at hp
  split at hp
  case h_3 =>
      cases hp
      refine Part.takes_pair (put_holdOf fun i => by cases i <;> rfl) ?_
      rw [meets_holdOf_iff]
      simp [coordinates, value, posLens, pos]
  case h_6 =>
      obtain ⟨spot, hspot, rfl⟩ := Option.map_eq_some_iff.1 hp
      have hcoordinates : coordinates K name = spotCoordinates spot := by simp [coordinates, *]
      rw [hcoordinates]
      exact takes_spotPart spot h
  all_goals
    cases hp
    refine Part.takes_scalar (put_holdOf fun i => by cases i <;> rfl) ?_
    rw [meets_holdOf_iff]
    simp [coordinates, value, posXLens, posYLens, angleLens, opacityLens]

theorem coordinates_of_no_part {name : String} (h : part? s name = none) :
    coordinates K name = [] := by
  unfold part? at h
  split at h
  case h_6 =>
      have hspot : Spot.find? (K := K) name = none := Option.map_eq_none_iff.1 h
      simp [coordinates, *]
  all_goals cases h

theorem hasAxes (s : Size K) : HasAxes (fun a : Actor K => a.attr? s) (fun a => a.setAttr s)
    pinned segment fun name => holdOf (coordinates K name) := by
  refine hasAxes_of_parts (part? s) (attr?_eq s) (setAttr_eq s) (pinned_setAttr s) ?_
    fun _ _ hp _ _ h => takes_part hp h
  intro name hp
  rw [coordinates_of_no_part hp]
  rfl

end Actor

end Stagecraft
