/-
Where a tween leaves its puppet, in exact arithmetic.

The step that takes a tween past its duration writes the ends of its tracks,
one after the other, whatever the stage is like by then (`Tween.Finishes`).
That each of them is read in the end is one thing, and that all of them are
is another, since attributes of a box share the numbers that the box keeps.

For an actor it is enough that there could be an actor that has all the ends.
For a rectangle it is not. The right edge is put where it belongs with the
width that there is, and a width that comes later takes it away again. So the
order of the requests counts, and how it does is said exactly: the ends are
all read if and only if the rectangle settles at one that has them
(`Rect.Settles`).
-/
import Stagecraft.Proofs.Attributes.Placing
import Stagecraft.Proofs.Tweens.Requests
import Stagecraft.Proofs.Tweens.Writers

namespace Stagecraft

variable {κ : Type}

-- ============================================================ the stage

namespace Stage

variable {α : Type} [Scalar α] {s : Stage α} {i : PuppetId}

/-- Writes to a rectangle on the stage are writes to the rectangle. -/
theorem puppet?_setAttrs_rect {r : Rect α} (h : s.puppet? i = some (.rect r))
    (l : List (String × AttrValue α)) :
    (s.setAttrs i l).puppet? i = some (.rect (setAll Rect.setAttr r l)) := by
  induction l generalizing s r with
  | nil => exact h
  | cons e rest ih =>
      refine ih (s := s.setAttr i e.1 e.2) (r := r.setAttr e.1 e.2) ?_
      rw [puppet?_setAttr, if_pos rfl, h]
      rfl

/-- An actor keeps its image, and the image its size. -/
theorem puppet?_setAttrs_actor {a : Actor α} (h : s.puppet? i = some (.actor a))
    (l : List (String × AttrValue α)) :
    (s.setAttrs i l).puppet? i
      = some (.actor (setAll (fun b => b.setAttr (s.sizeOf a.image)) a l)) := by
  induction l generalizing s a with
  | nil => exact h
  | cons e rest ih =>
      have hfirst : (s.setAttr i e.1 e.2).puppet? i
          = some (.actor (a.setAttr (s.sizeOf a.image) e.1 e.2)) := by
        rw [puppet?_setAttr, if_pos rfl, h]
        rfl
      have hrest := ih hfirst
      rw [sizeOf_setAttr, Actor.image_setAttr] at hrest
      exact hrest

theorem sizeOf_setAttrs (s : Stage α) (i : PuppetId) (l : List (String × AttrValue α)) :
    (s.setAttrs i l).sizeOf = s.sizeOf := by
  induction l generalizing s with
  | nil => rfl
  | cons e rest ih => exact (ih _).trans (sizeOf_setAttr s i e.1 e.2)

end Stage

-- ============================================================ finishing

namespace Tween

section Finishing

variable {α : Type} [Elementary α] {t : Tween κ α} {s e : Stage α}

/-- What the tween is to end at. -/
def ends (t : Tween κ α) : List (String × AttrValue α) := t.tracks.map fun a => (a.name, a.stop)

/-- Whether a step that takes the tween past its duration makes of one stage another. The
easing and the callback may have been given by then, and any time may have passed. -/
def Finishes (t : Tween κ α) (s e : Stage α) : Prop :=
  ∃ (elapsed dt : α) (easing : Easing) (onComplete : Option κ), t.duration < elapsed + dt
    ∧ e = ({ t with elapsed, easing, onComplete }.update dt s).2

/-- Whether every attribute that is tracked reads its end. -/
def AtEnds (t : Tween κ α) (s : Stage α) : Prop :=
  ∀ a ∈ t.tracks, s.attr? t.target a.name = some a.stop

theorem Finishes.eq (h : t.Finishes s e) : e = s.setAttrs t.target t.ends := by
  obtain ⟨elapsed, dt, easing, onComplete, hover, rfl⟩ := h
  have hvalues : (moved dt { t with elapsed, easing, onComplete }).values = t.ends := by
    rw [values_moved]
    exact List.map_congr_left fun a _ => congrArg (Prod.mk a.name) (if_pos hover)
  exact congrArg (s.setAttrs t.target) hvalues

omit [Elementary α] in
theorem forall_mem_ends {P : String × AttrValue α → Prop} :
    (∀ r ∈ t.ends, P r) ↔ ∀ a ∈ t.tracks, P (a.name, a.stop) := List.forall_mem_map

/-- The ends are among what was requested. -/
theorem mem_requests_of_mem_ends {made : Stage α} {target : PuppetId} {duration : α}
    {requests : List (String × AttrValue α)} (h : new made target duration requests = .ok t)
    {r : String × AttrValue α} (hr : r ∈ t.ends) : r ∈ requests := by
  obtain ⟨a, ha, rfl⟩ := List.mem_map.1 hr
  have htracks : t.tracks = trackAll (made.attr? target) requests := congrArg tracks (new_eq h)
  obtain ⟨before, behind, hsplit, -⟩ := (trackAll_ordered _ requests).ends a (htracks ▸ ha)
  rw [hsplit]
  exact List.mem_append_right _ List.mem_cons_self

end Finishing

variable {K : Type} [Field K] [LinearOrder K] [FloorRing K] [Curves K]
  {t : Tween κ K} {s e : Stage K}

/-- A tween leaves a rectangle at its ends exactly if the rectangle settles at one that
has them all. -/
theorem Finishes.atEnds_iff_of_rect (h : t.Finishes s e) {r : Rect K}
    (hr : s.puppet? t.target = some (.rect r)) :
    t.AtEnds e ↔ ∃ goal : Rect K, (∀ a ∈ t.tracks, goal.attr? a.name = some a.stop)
      ∧ Rect.Settles t.names r goal := by
  have hread (name : String) :
      e.attr? t.target name = (setAll Rect.setAttr r t.ends).attr? name := by
    unfold Stage.attr?
    rw [h.eq, Stage.puppet?_setAttrs_rect hr]
    rfl
  have hholds (axis : Rect.Axis) :
      t.ends.map (fun p => Rect.hold (K := K) p.1 axis) = t.names.map (Rect.hold · axis) := by
    unfold ends names
    rw [List.map_map, List.map_map]
    rfl
  have hall := Rect.hasAxes.reads_setAll_iff r t.ends
  simp only [hholds, true_and, forall_mem_ends] at hall
  unfold AtEnds
  simp only [hread]
  exact hall

/-- A tween leaves an actor at its ends if there is one with the same image and the same
anchor that has them all. -/
theorem Finishes.atEnds_of_actor (h : t.Finishes s e) {a b : Actor K}
    (ha : s.puppet? t.target = some (.actor a)) (hb : b.pinned = a.pinned)
    (hends : ∀ r ∈ t.ends, b.attr? (s.sizeOf b.image) r.1 = some r.2) : t.AtEnds e := by
  have himage : b.image = a.image := congrArg Prod.fst hb
  rw [himage] at hends
  have hall := ((Actor.hasAxes (s.sizeOf a.image)).reads_setAll_iff a t.ends).2
    ⟨b, hb, hends, fun _ => .of_same _⟩
  have hkept := frame_setAll (Actor.pinned_setAttr (s.sizeOf a.image)) a t.ends
  have hlast := Stage.puppet?_setAttrs_actor ha t.ends
  generalize setAll (fun b => Actor.setAttr b (s.sizeOf a.image)) a t.ends = c at hall hkept hlast
  have himage : c.image = a.image := congrArg Prod.fst hkept
  have hread (r : String × AttrValue K) (hr : r ∈ t.ends) :
      e.attr? t.target r.1 = some r.2 := by
    rw [← hall r hr, ← himage, h.eq]
    unfold Stage.attr?
    rw [hlast, Stage.sizeOf_setAttrs]
    rfl
  exact forall_mem_ends.1 hread

-- ============================================================= the result

/-- Where a tween leaves a box that it was asked to move to some ends. -/
structure Lands (t : Tween κ K) (requests : List (String × AttrValue K)) : Prop where
  /-- An actor that has all ends, with the same image and the same anchor, is enough. -/
  actor (s e : Stage K) (hfinish : t.Finishes s e) (a b : Actor K)
    (ha : s.puppet? t.target = some (.actor a)) (hb : b.pinned = a.pinned)
    (hends : ∀ r ∈ requests, b.attr? (s.sizeOf b.image) r.1 = some r.2) : t.AtEnds e
  /-- A rectangle that has all ends is enough if the order of the requests is right. -/
  rect (s e : Stage K) (hfinish : t.Finishes s e) (r goal : Rect K)
    (hr : s.puppet? t.target = some (.rect r))
    (hends : ∀ p ∈ requests, goal.attr? p.1 = some p.2)
    (hsettles : Rect.Settles t.names r goal) : t.AtEnds e
  /-- The order does not matter if that rectangle has the size that there is. -/
  rect_of_same_size (s e : Stage K) (hfinish : t.Finishes s e) (r goal : Rect K)
    (hr : s.puppet? t.target = some (.rect r))
    (hends : ∀ p ∈ requests, goal.attr? p.1 = some p.2) (hsize : goal.size = r.size) : t.AtEnds e
  /-- And nothing less is enough. -/
  rect_iff (s e : Stage K) (hfinish : t.Finishes s e) (r : Rect K)
    (hr : s.puppet? t.target = some (.rect r)) :
    t.AtEnds e ↔ ∃ goal : Rect K, (∀ a ∈ t.tracks, goal.attr? a.name = some a.stop)
      ∧ Rect.Settles t.names r goal

end Tween

open Tween in
/-- A tween that is over has its target at all ends that were asked for: an actor whenever they
go together, a box only if none undoes another. -/
theorem tween_lands {K : Type} [Field K] [LinearOrder K] [FloorRing K] [Curves K] {made : Stage K}
    {target : PuppetId} {duration : K} {requests : List (String × AttrValue K)} {t : Tween κ K}
    (h : Tween.new made target duration requests = .ok t) : t.Lands requests := by
  have hrect {s e : Stage K} (hfinish : t.Finishes s e) {r goal : Rect K}
      (hr : s.puppet? t.target = some (.rect r))
      (hends : ∀ p ∈ requests, goal.attr? p.1 = some p.2)
      (hsettles : Rect.Settles t.names r goal) : t.AtEnds e := by
    have hgoal : ∀ p ∈ t.ends, goal.attr? p.1 = some p.2 :=
      fun p hp => hends p (mem_requests_of_mem_ends h hp)
    exact (hfinish.atEnds_iff_of_rect hr).2 ⟨goal, forall_mem_ends.1 hgoal, hsettles⟩
  constructor
  case actor =>
      intro s e hfinish a b ha hb hends
      exact hfinish.atEnds_of_actor ha hb fun p hp => hends p (mem_requests_of_mem_ends h hp)
  case rect => exact fun s e hfinish r goal hr hends hsettles => hrect hfinish hr hends hsettles
  case rect_of_same_size =>
      intro s e hfinish r goal hr hends hsize
      exact hrect hfinish hr hends (Rect.settles_of_same_size t.names hsize)
  case rect_iff => exact fun s e hfinish r hr => hfinish.atEnds_iff_of_rect hr

/-- A rectangle, and an actor that is pinned at its top left. -/
private noncomputable def twoBoxes : Stage ℝ where
  images := #[⟨"box", ⟨4.0, 2.0⟩⟩]
  puppets := #[.rect ⟨0, 0, 10.0, 10.0⟩, .actor ⟨⟨0⟩, .left, .top, 0, 0, 0, 1⟩]

/-- What a tween of a box is when it is made. -/
private noncomputable def toEnds (target : PuppetId) (requests : List (String × AttrValue ℝ)) :
    Tween ℕ ℝ :=
  ⟨target, Tween.trackAll (twoBoxes.attr? target) requests, 0.0, 1, .linear, none⟩

private theorem new_toEnds (target : PuppetId) (requests : List (String × AttrValue ℝ)) :
    Tween.new twoBoxes target 1 requests = .ok (toEnds target requests) :=
  Tween.new_of_isDelay ((isDelay_exact _).2 one_pos) _ _ _

private theorem finishes_toEnds (target : PuppetId) (requests : List (String × AttrValue ℝ)) :
    (toEnds target requests).Finishes twoBoxes ((toEnds target requests).update 2 twoBoxes).2 := by
  have hover : (1 : ℝ) < 0.0 + 2 := by norm_num
  exact ⟨0.0, 2, .linear, none, hover, rfl⟩

/-- The width is asked for before the right edge; an actor is asked for both of its edges. -/
theorem width_first_and_actor_land :
    (∃ t : Tween ℕ ℝ,
      Tween.new twoBoxes ⟨0⟩ 1 [("width", .scalar 50), ("right", .scalar 100)] = .ok t
        ∧ t.AtEnds (t.update 2 twoBoxes).2)
      ∧ ∃ t : Tween ℕ ℝ,
        Tween.new twoBoxes ⟨1⟩ 1 [("right", .scalar 7), ("left", .scalar 3)] = .ok t
          ∧ t.AtEnds (t.update 2 twoBoxes).2 := by
  refine ⟨⟨_, new_toEnds ⟨0⟩ _, ?_⟩, ⟨_, new_toEnds ⟨1⟩ _, ?_⟩⟩
  · have hsettles : Rect.Settles (["width"] ++ ["right"]) ⟨0, 0, 10.0, 10.0⟩
        (⟨50, 0, 50, 10.0⟩ : Rect ℝ) := by
      refine Rect.settles_of_sizes_first (by decide) ?_
      rintro (_ | _)
      · exact .inr List.mem_cons_self
      · exact .inl rfl
    refine (tween_lands (new_toEnds ⟨0⟩ _)).rect _ _ (finishes_toEnds ⟨0⟩ _)
      ⟨0, 0, 10.0, 10.0⟩ ⟨50, 0, 50, 10.0⟩ rfl ?_ hsettles
    rw [List.forall_mem_cons, List.forall_mem_singleton]
    refine ⟨rfl, congrArg (some ∘ AttrValue.scalar) ?_⟩
    show (50 : ℝ) + 50 = 100
    norm_num
  · refine (tween_lands (new_toEnds ⟨1⟩ _)).actor _ _ (finishes_toEnds ⟨1⟩ _)
      ⟨⟨0⟩, .left, .top, 0, 0, 0, 1⟩ ⟨⟨0⟩, .left, .top, 3, 0, 0, 1⟩ rfl rfl ?_
    rw [List.forall_mem_cons, List.forall_mem_singleton]
    refine ⟨congrArg (some ∘ AttrValue.scalar) ?_, congrArg (some ∘ AttrValue.scalar) ?_⟩
    · show (3 : ℝ) - 0.0 + 4.0 = 7
      norm_num
    · show (3 : ℝ) - 0.0 = 3
      norm_num

/-- Asked for before the width, the right edge ends up at 140 and not at 100, although the
rectangle from 50 to 100 has both. -/
theorem edge_before_width_is_lost : ∃ t : Tween ℕ ℝ,
    Tween.new twoBoxes ⟨0⟩ 1 [("right", .scalar 100), ("width", .scalar 50)] = .ok t
      ∧ (∀ p ∈ [("right", .scalar 100), ("width", .scalar 50)],
        (⟨50, 0, 50, 10⟩ : Rect ℝ).attr? p.1 = some p.2)
      ∧ (t.update 2 twoBoxes).2.attr? ⟨0⟩ "right" = some (.scalar 140)
      ∧ ¬t.AtEnds (t.update 2 twoBoxes).2 := by
  have hright : ((toEnds ⟨0⟩ [("right", .scalar 100), ("width", .scalar 50)]).update 2
      twoBoxes).2.attr? ⟨0⟩ "right" = some (.scalar 140) := by
    rw [(finishes_toEnds ⟨0⟩ _).eq]
    refine congrArg (some ∘ AttrValue.scalar) ?_
    show (100 : ℝ) - 10.0 + 50 = 140
    norm_num
  refine ⟨_, new_toEnds ⟨0⟩ _, ?_, hright, fun hends => ?_⟩
  · rw [List.forall_mem_cons, List.forall_mem_singleton]
    refine ⟨congrArg (some ∘ AttrValue.scalar) ?_, rfl⟩
    show (50 : ℝ) + 50 = 100
    norm_num
  · have hend := hright.symm.trans (hends ⟨"right", _, .scalar 100⟩ List.mem_cons_self)
    norm_num at hend

end Stagecraft
