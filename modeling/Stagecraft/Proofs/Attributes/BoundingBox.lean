/-
An actor moves as its bounding box does, in exact arithmetic.

A rectangle keeps its corner and an actor keeps its anchor, so each has its
own way to read and to move a spot of the box. Taking the box of an actor
turns the one into the other: to move the actor and take its box is to take
its box and move that (`rect_write_spotPart`). The names that both know are
those of spots (`known_by_both`), so this is all there is to say of them.
The square is drawn for columns and rows; anchor points are made of these.
-/
import Stagecraft.Proofs.Attributes.Laws

namespace Stagecraft

variable {K : Type}

-- ======================================================= shared names

/-- The names of columns and rows. -/
def sideNames : List String :=
  ["x", "left", "right", "centerx", "y", "top", "bottom", "centery"]

theorem Spot.isSome_find?_iff (name : String) :
    (find? (K := K) name).isSome = true ↔
      name ∈ sideNames ∨ ∃ p : AnchorPoint, Text.key name = p.name := by
  simp only [← AnchorPoint.find?_eq_some_iff, ← Option.isSome_iff_exists]
  unfold find?
  split
  case h_9 =>
      have hside : name ∉ sideNames := by
        simp only [sideNames, List.mem_cons, List.not_mem_nil, or_false, not_or]
        exact ⟨‹_›, ‹_›, ‹_›, ‹_›, ‹_›, ‹_›, ‹_›, ‹_›⟩
      simp only [Option.isSome_map, hside, false_or]
  all_goals exact iff_of_true rfl (.inl (by decide))

variable [Field K] [LinearOrder K] [FloorRing K]

theorem Rect.part?_of_spot {name : String} {spot : Spot K} (h : Spot.find? name = some spot) :
    part? name = some (spotPart spot) := by
  unfold part?
  split
  case h_4 => rw [h]; rfl
  all_goals cases h

namespace Actor

variable (s : Size K)

theorem part?_of_spot {name : String} {spot : Spot K} (h : Spot.find? name = some spot) :
    part? s name = some (spotPart s spot) := by
  unfold part?
  split
  case h_6 => rw [h]; rfl
  all_goals cases h

/-- What an actor and a rectangle both have are the spots of a box. -/
theorem exists_spot {a : Actor K} {r : Rect K} {name : String}
    (hactor : (a.attr? s name).isSome = true) (hrect : (r.attr? name).isSome = true) :
    ∃ spot : Spot K, Spot.find? name = some spot := by
  rw [attr?_eq, Option.isSome_map] at hactor
  rw [Rect.attr?_eq, Option.isSome_map] at hrect
  unfold Rect.part? at hrect
  split at hrect
  case h_4 =>
      rw [Option.isSome_map] at hrect
      exact Option.isSome_iff_exists.1 hrect
  all_goals cases hactor

-- ============================================================= the square

theorem read_spotPart (a : Actor K) (spot : Spot K) :
    (spotPart s spot).read a = (Rect.spotPart spot).read (a.rect s) := by
  cases spot with
  | column x | row y | point p => rfl

theorem rect_setLeft (a : Actor K) (v : K) : (a.setLeft s v).rect s = (a.rect s).setLeft v := by
  unfold rect
  rw [left_setLeft]
  rfl

theorem rect_setTop (a : Actor K) (v : K) : (a.setTop s v).rect s = (a.rect s).setTop v := by
  unfold rect
  rw [top_setTop]
  rfl

theorem rect_write_spotPart (a : Actor K) (spot : Spot K) (v : AttrValue K) :
    ((spotPart s spot).write a v).rect s = (Rect.spotPart spot).write (a.rect s) v := by
  cases spot with
  | column x =>
      cases v with
      | scalar k => exact rect_setLeft s a _
      | array ks => rfl
  | row y =>
      cases v with
      | scalar k => exact rect_setTop s a _
      | array ks => rfl
  | point p =>
      match v with
      | .array [k, l] =>
          refine (rect_setTop s _ _).trans ?_
          exact congrArg (Rect.setTop · _) (rect_setLeft s a _)
      | .scalar _ | .array [] | .array [_] | .array (_ :: _ :: _ :: _) => rfl

/-- What a spot of the box leaves of an actor: all but the position. -/
theorem write_spotPart (a : Actor K) (spot : Spot K) (v : AttrValue K) :
    ∃ x y, (spotPart s spot).write a v = { a with posX := x, posY := y } := by
  cases spot with
  | column x | row y =>
      cases v with
      | scalar k => exact ⟨_, _, rfl⟩
      | array ks => exact ⟨_, _, rfl⟩
  | point p =>
      match v with
      | .array [k, l] => exact ⟨_, _, rfl⟩
      | .scalar _ | .array [] | .array [_] | .array (_ :: _ :: _ :: _) => exact ⟨_, _, rfl⟩

-- ======================================================== as its own box

/-- An actor and its bounding box, where images have the sizes that `sizeOf` says. -/
structure IsItsBox (sizeOf : ImageId → Size K) (a : Actor K) : Prop where
  /-- Both know the spots of a box, and nothing else. -/
  shared (name : String) :
    (a.attr? (sizeOf a.image) name).isSome = true ∧
        ((a.rect (sizeOf a.image)).attr? name).isSome = true ↔
      name ∈ sideNames ∨ ∃ p : AnchorPoint, Text.key name = p.name
  /-- They answer with the same value. -/
  reads (name : String) (hactor : (a.attr? (sizeOf a.image) name).isSome = true)
    (hrect : ((a.rect (sizeOf a.image)).attr? name).isSome = true) :
    a.attr? (sizeOf a.image) name = (a.rect (sizeOf a.image)).attr? name
  /-- The box of the actor with a value is the box with that value. -/
  writes (name : String) (hactor : (a.attr? (sizeOf a.image) name).isSome = true)
    (hrect : ((a.rect (sizeOf a.image)).attr? name).isSome = true) (v : AttrValue K)
    (b : Actor K) (hb : b = a.setAttr (sizeOf a.image) name v) :
    b.rect (sizeOf b.image) = (a.rect (sizeOf a.image)).setAttr name v
  /-- The actor is not turned, faded, pinned elsewhere or given another image. -/
  keeps (name : String) (hactor : (a.attr? (sizeOf a.image) name).isSome = true)
    (hrect : ((a.rect (sizeOf a.image)).attr? name).isSome = true) (v : AttrValue K)
    (b : Actor K) (hb : b = a.setAttr (sizeOf a.image) name v) :
    b.angle = a.angle ∧ b.opacity = a.opacity ∧ b.anchorX = a.anchorX ∧ b.anchorY = a.anchorY ∧
      b.image = a.image

/-- Whoever reads and writes an actor by the names that boxes have reads and writes its
bounding box. -/
theorem is_its_box (sizeOf : ImageId → Size K) (a : Actor K) : IsItsBox sizeOf a := by
  have hwrite {name : String} {spot : Spot K} (hspot : Spot.find? name = some spot)
      (v : AttrValue K) :
      a.setAttr (sizeOf a.image) name v = (spotPart (sizeOf a.image) spot).write a v := by
    rw [setAttr_eq, part?_of_spot _ hspot]
    rfl
  constructor
  case shared =>
      intro name
      rw [← Spot.isSome_find?_iff (K := K) name]
      constructor
      · rintro ⟨hactor, hrect⟩
        exact Option.isSome_iff_exists.2 (exists_spot _ hactor hrect)
      · intro h
        obtain ⟨spot, hspot⟩ := Option.isSome_iff_exists.1 h
        rw [attr?_eq, part?_of_spot _ hspot, Rect.attr?_eq, Rect.part?_of_spot hspot]
        exact ⟨rfl, rfl⟩
  case reads =>
      intro name hactor hrect
      obtain ⟨spot, hspot⟩ := exists_spot _ hactor hrect
      rw [attr?_eq, part?_of_spot _ hspot, Rect.attr?_eq, Rect.part?_of_spot hspot]
      exact congrArg some (read_spotPart _ a spot)
  case writes =>
      rintro name hactor hrect v b rfl
      obtain ⟨spot, hspot⟩ := exists_spot _ hactor hrect
      rw [image_setAttr, hwrite hspot, Rect.setAttr_eq, Rect.part?_of_spot hspot]
      exact rect_write_spotPart _ a spot v
  case keeps =>
      rintro name hactor hrect v b rfl
      obtain ⟨spot, hspot⟩ := exists_spot _ hactor hrect
      obtain ⟨x, y, hmoved⟩ := write_spotPart (sizeOf a.image) a spot v
      rw [hwrite hspot, hmoved]
      exact ⟨rfl, rfl, rfl, rfl, rfl⟩

/-- The anchor lies 3 to the right of the left edge, and the middle 3 as well. -/
example :
    ((⟨⟨0⟩, .pixels 3, .bottom, 10, 20, 45, 1⟩ : Actor ℚ).setAttr ⟨7, 5⟩ " MidTOP\t"
      (.pair (1, 2))).rect ⟨7, 5⟩ = ⟨-2, 2, 7, 5⟩ := by decide +kernel

end Actor

end Stagecraft
