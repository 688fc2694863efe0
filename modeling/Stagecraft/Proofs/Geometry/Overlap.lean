/-
Rectangles that overlap, in exact arithmetic.

That two rectangles overlap is decided in two places: by four comparisons
and a look at the sides, and by the nest of cases that clips one of them to
the other. Both say the same as that the later starts come before the earlier
ends (`Overlaps`), and where they do, the corner made of the two later starts
is a point of both. The comparisons need help from the sides: each compares
the start of one rectangle with the end of the other, and that a rectangle
begins before its own end is left to the test that no side is zero. So it is
here, and not for clipping, that a side must not run backwards.

What is clipped is then the meet in the order of rectangles, as the union is
the join (`le_clip_iff`). All that is left to say of it follows from there:
it lies in both, has everything in it that does, and is the same from either
side.
-/
import Stagecraft.Proofs.Geometry.Covering

namespace Stagecraft.Rect

variable {K : Type} [Field K] [LinearOrder K] [FloorRing K]
variable {a b c r : Rect K}

-- =============================================================== overlap

/-- The later starts of two rectangles come before their earlier ends. -/
def Overlaps (a b : Rect K) : Prop :=
  max a.x b.x < min a.right b.right ∧ max a.y b.y < min a.bottom b.bottom

/-- Whether neither side of the rectangle runs backwards. -/
def IsUpright (r : Rect K) : Prop := 0 ≤ r.width ∧ 0 ≤ r.height

instance (r : Rect K) : Decidable r.IsUpright := inferInstanceAs (Decidable (_ ∧ _))

/-- What is upright and has no side of zero is a box. -/
theorem isBox_iff_ne_zero (hr : r.IsUpright) : r.IsBox ↔ r.width ≠ 0 ∧ r.height ≠ 0 :=
  and_congr hr.1.lt_iff_ne' hr.2.lt_iff_ne'

theorem overlaps_comm : Overlaps a b ↔ Overlaps b a := by
  unfold Overlaps
  rw [max_comm, min_comm, max_comm a.y, min_comm a.bottom]

/-- The corner where the later starts meet is the first point that two rectangles
share. -/
theorem overlaps_iff_exists_point :
    Overlaps a b ↔ ∃ x y, a.containsPoint x y = true ∧ b.containsPoint x y = true := by
  simp only [containsPoint_iff]
  unfold Overlaps
  constructor
  · rintro ⟨hx, hy⟩
    obtain ⟨hax, hbx⟩ := lt_min_iff.1 hx
    obtain ⟨hay, hby⟩ := lt_min_iff.1 hy
    exact ⟨max a.x b.x, max a.y b.y, ⟨⟨le_max_left _ _, hax⟩, le_max_left _ _, hay⟩,
      ⟨le_max_right _ _, hbx⟩, le_max_right _ _, hby⟩
  · rintro ⟨x, y, ⟨⟨hax, hax'⟩, hay, hay'⟩, ⟨hbx, hbx'⟩, hby, hby'⟩
    exact ⟨(max_le hax hbx).trans_lt (lt_min hax' hbx'),
      (max_le hay hby).trans_lt (lt_min hay' hby')⟩

variable [IsStrictOrderedRing K]

/-- Rectangles that overlap are boxes that begin before each other's ends. -/
theorem overlaps_iff_isBox :
    Overlaps a b ↔ (a.IsBox ∧ b.IsBox) ∧ (a.x < b.right ∧ a.y < b.bottom) ∧
      b.x < a.right ∧ b.y < a.bottom := by
  unfold Overlaps
  simp only [isBox_iff, lt_min_iff, max_lt_iff]
  tauto

/-- The comparisons find every overlap of upright rectangles, and no other. -/
theorem collides_iff (ha : a.IsUpright) (hb : b.IsUpright) :
    a.collides b = true ↔ Overlaps a b := by
  rw [overlaps_iff_isBox, isBox_iff_ne_zero ha, isBox_iff_ne_zero hb]
  unfold collides
  rw [Scalar.zero_exact]
  split
  next hflat =>
    refine iff_of_false Bool.false_ne_true ?_
    rintro ⟨⟨⟨haw, hah⟩, hbw, hbh⟩, -⟩
    simp [haw, hah, hbw, hbh] at hflat
  next hsides =>
    simp only [Bool.or_eq_true, beq_iff_eq, not_or] at hsides
    obtain ⟨⟨⟨haw, hah⟩, hbw⟩, hbh⟩ := hsides
    simp only [Bool.and_eq_true, decide_eq_true_eq, and_assoc, ne_eq, haw, hah, hbw, hbh,
      not_false_eq_true, true_and]

-- ============================================================== the meet

/-- Where nothing overlaps, what is clipped is empty and at the origin of the first. -/
theorem clip_of_not_overlaps (h : ¬Overlaps a b) : a.clip b = ⟨a.x, a.y, 0, 0⟩ :=
  (clip_eq a b).trans (if_neg h)

/-- What overlaps reaches from the later starts to the earlier ends. -/
theorem edges_clip (h : Overlaps a b) :
    ((a.clip b).x = max a.x b.x ∧ (a.clip b).right = min a.right b.right) ∧
      (a.clip b).y = max a.y b.y ∧ (a.clip b).bottom = min a.bottom b.bottom := by
  rw [clip_eq, if_pos (show _ ∧ _ from h)]
  exact ⟨⟨rfl, add_sub_cancel _ _⟩, rfl, add_sub_cancel _ _⟩

/-- Clipping is the meet of rectangles that overlap. -/
theorem le_clip_iff (h : Overlaps a b) : c ≤ a.clip b ↔ c ≤ a ∧ c ≤ b := by
  obtain ⟨⟨hx, hright⟩, hy, hbottom⟩ := edges_clip h
  simp only [le_def, hx, hright, hy, hbottom, max_le_iff, le_min_iff]
  tauto

theorem isBox_clip_iff : (a.clip b).IsBox ↔ Overlaps a b := by
  constructor
  · intro hbox
    by_contra h
    rw [clip_of_not_overlaps h] at hbox
    exact absurd hbox.1 (lt_irrefl 0)
  · intro h
    obtain ⟨⟨hx, hright⟩, hy, hbottom⟩ := edges_clip h
    rw [isBox_iff, hx, hright, hy, hbottom]
    exact h

theorem clip_comm (h : Overlaps a b) : a.clip b = b.clip a := by
  have hba : Overlaps b a := overlaps_comm.1 h
  apply le_antisymm
  · exact (le_clip_iff hba).2 ((le_clip_iff h).1 le_rfl).symm
  · exact (le_clip_iff h).2 ((le_clip_iff hba).1 le_rfl).symm

-- ============================================================ collisions

/-- What it means that two rectangles collide. -/
structure CollidesOnOverlap (a b : Rect K) : Prop where
  /-- Some point lies in both. -/
  shared : a.collides b = true ↔ ∃ x y, a.containsPoint x y = true ∧ b.containsPoint x y = true
  /-- What is clipped has a width and a height above zero. -/
  clipped : a.collides b = true ↔ (a.clip b).IsBox
  symm : a.collides b = b.collides a
  apart : a.collides b = false → a.clip b = ⟨a.x, a.y, 0, 0⟩
  same : a.collides b = true → a.clip b = b.clip a
  within : a.collides b = true → a.contains (a.clip b) = true ∧ b.contains (a.clip b) = true
  /-- No box in both reaches beyond what is clipped. -/
  greatest : a.collides b = true → ∀ c : Rect K, c.IsBox → a.contains c = true →
    b.contains c = true → (a.clip b).contains c = true

/-- Rectangles without negative sides collide exactly if they share a point, and then clipping
gives all that they share. -/
theorem collision_is_overlap (ha : a.IsUpright) (hb : b.IsUpright) : CollidesOnOverlap a b where
  shared := (collides_iff ha hb).trans overlaps_iff_exists_point
  clipped := (collides_iff ha hb).trans isBox_clip_iff.symm
  symm := by
    rw [Bool.eq_iff_iff, collides_iff ha hb, collides_iff hb ha]
    exact overlaps_comm
  apart hapart := by
    refine clip_of_not_overlaps fun h => ?_
    rw [(collides_iff ha hb).2 h] at hapart
    cases hapart
  same hcollide := clip_comm ((collides_iff ha hb).1 hcollide)
  within hcollide := by
    have h : Overlaps a b := (collides_iff ha hb).1 hcollide
    obtain ⟨hina, hinb⟩ := (le_clip_iff h).1 le_rfl
    have hbox := isBox_clip_iff.2 h
    exact ⟨(contains_iff hbox).2 hina, (contains_iff hbox).2 hinb⟩
  greatest hcollide c hc hac hbc := by
    have h : Overlaps a b := (collides_iff ha hb).1 hcollide
    rw [contains_iff hc] at hac hbc ⊢
    exact (le_clip_iff h).2 ⟨hac, hbc⟩

/-- Two boxes that overlap in a corner share a box of one by two, from either side; a box that
only touches the edge of another shares nothing with it, and nor does a line inside of it. -/
theorem corners_overlap_and_edges_touch :
    (⟨0, 0, 3, 4⟩ : Rect ℚ).clip ⟨2, 2, 5, 5⟩ = (⟨2, 2, 5, 5⟩ : Rect ℚ).clip ⟨0, 0, 3, 4⟩
      ∧ (∃ x y, (⟨0, 0, 3, 4⟩ : Rect ℚ).containsPoint x y = true
          ∧ (⟨2, 2, 5, 5⟩ : Rect ℚ).containsPoint x y = true)
      ∧ (⟨0, 0, 3, 4⟩ : Rect ℚ).clip ⟨3, 0, 2, 2⟩ = ⟨0, 0, 0, 0⟩
      ∧ ¬((⟨0, 0, 3, 4⟩ : Rect ℚ).clip ⟨1, 1, 0, 2⟩).IsBox := by
  have hcorner := collision_is_overlap (a := (⟨0, 0, 3, 4⟩ : Rect ℚ)) (b := ⟨2, 2, 5, 5⟩)
    (by decide +kernel) (by decide +kernel)
  have hedge := collision_is_overlap (a := (⟨0, 0, 3, 4⟩ : Rect ℚ)) (b := ⟨3, 0, 2, 2⟩)
    (by decide +kernel) (by decide +kernel)
  have hline := collision_is_overlap (a := (⟨0, 0, 3, 4⟩ : Rect ℚ)) (b := ⟨1, 1, 0, 2⟩)
    (by decide +kernel) (by decide +kernel)
  refine ⟨hcorner.same (by decide +kernel), hcorner.shared.1 (by decide +kernel),
    hedge.apart (by decide +kernel), fun hbox => ?_⟩
  exact absurd (hline.clipped.2 hbox) (by decide +kernel)

end Stagecraft.Rect
