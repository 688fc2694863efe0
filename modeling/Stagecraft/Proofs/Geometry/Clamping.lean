/-
Rectangles moved into others, in exact arithmetic.

A rectangle is moved into another one axis by axis, by comparing first the
lengths and then the ends in a nest of cases. Along an axis there are three
ways for this to go if the segment is the shorter one: it begins before the
other and is put at its start, it ends behind the other and is put at its
end, or it lies within and stays (`Segment.clamp_cases`). Each of them gives
it, of all places within the other one, the nearest to where it was. A segment
that is not the shorter one is centred over the other.

# One place

There is only one nearest place, and only one that is centred. So what is
asked of the place (`Segment.IsClamped`) says which one it is, and the cases
are not needed again: that a segment stays when it is moved a second time
follows from its being where this is asked of it too
(`Segment.IsClamped.again`).
-/
import Stagecraft.Proofs.Attributes.Placing
import Stagecraft.Proofs.Geometry.Covering

namespace Stagecraft

attribute [ext] Segment Rect

/-- A rectangle is known by what it is along its axes. -/
theorem Rect.ext_segments {K : Type} {r s : Rect K} (h : ∀ i, r.segment i = s.segment i) :
    r = s :=
  Rect.ext (congrArg Segment.start (h .across)) (congrArg Segment.start (h .down))
    (congrArg Segment.length (h .across)) (congrArg Segment.length (h .down))

variable {K : Type} [Field K] [LinearOrder K] [FloorRing K]

-- ============================================================== one axis

namespace Segment

def stop (s : Segment K) : K := s.start + s.length

/-- The middle, at a whole distance from the start. -/
def center (s : Segment K) : K := s.start + Scalar.half s.length

/-- Whether no end of the segment lies beyond that of the other. -/
def Within (s room : Segment K) : Prop := room.start ≤ s.start ∧ s.stop ≤ room.stop

/-- The segment moved into another one. -/
def clamp (s room : Segment K) : Segment K :=
  ⟨Rect.clampAxis s.start s.length room.start room.length, s.length⟩

variable {s room c d p : Segment K}

theorem center_clamp (h : room.length ≤ s.length) : (s.clamp room).center = room.center := by
  unfold clamp center Rect.clampAxis
  rw [if_pos h, sub_add_cancel]

/-- What becomes of a segment that is shorter than the other one. -/
theorem clamp_cases (h : s.length < room.length) :
    (s.start < room.start ∧ (s.clamp room).start = room.start)
      ∨ (room.stop < s.stop ∧ (s.clamp room).stop = room.stop)
      ∨ s.Within room ∧ s.clamp room = s := by
  unfold clamp Rect.clampAxis
  rw [if_neg (not_le.2 h)]
  by_cases hstart : s.start < room.start
  · rw [if_pos hstart]
    exact .inl ⟨hstart, rfl⟩
  · rw [if_neg hstart]
    by_cases hstop : room.start + room.length < s.start + s.length
    · rw [if_pos hstop]
      exact .inr (.inl ⟨hstop, sub_add_cancel _ _⟩)
    · rw [if_neg hstop]
      exact .inr (.inr ⟨⟨not_lt.1 hstart, not_lt.1 hstop⟩, rfl⟩)

/-- The place of a segment that is moved into another one. -/
structure IsClamped (s room c : Segment K) : Prop where
  length : c.length = s.length
  within (h : s.length < room.length) : c.Within room
  /-- Every other place within is farther from where the segment was. -/
  nearest (h : s.length < room.length) (p : Segment K) (hlength : p.length = s.length)
    (hp : p.Within room) (hne : p ≠ c) : |c.start - s.start| < |p.start - s.start|
  centred (h : room.length ≤ s.length) : c.center = room.center

theorem IsClamped.unique (hc : IsClamped s room c) (hd : IsClamped s room d) : c = d := by
  rcases lt_or_ge s.length room.length with h | h
  · by_contra hne
    have hcd := hc.nearest h d hd.length (hd.within h) (Ne.symm hne)
    have hdc := hd.nearest h c hc.length (hc.within h) hne
    exact lt_asymm hcd hdc
  · have hlength : c.length = d.length := hc.length.trans hd.length.symm
    have hcenter : c.center = d.center := (hc.centred h).trans (hd.centred h).symm
    unfold center at hcenter
    rw [hlength] at hcenter
    exact Segment.ext (add_right_cancel hcenter) hlength

variable [IsStrictOrderedRing K]

/-- Where a segment is put it is to be put again. -/
theorem IsClamped.again (hc : IsClamped s room c) : IsClamped c room c := by
  constructor
  case length => rfl
  case within => exact fun h => hc.within (hc.length ▸ h)
  case nearest =>
      intro _ p hlength _ hne
      have hstart : p.start ≠ c.start := fun heq => hne (Segment.ext heq hlength)
      rw [sub_self, abs_zero]
      exact abs_pos.2 (sub_ne_zero.2 hstart)
  case centred => exact fun h => hc.centred (hc.length ▸ h)

theorem within_clamp (h : s.length < room.length) : (s.clamp room).Within room := by
  have hlength : (s.clamp room).length = s.length := rfl
  unfold Within stop
  rcases clamp_cases h with ⟨-, hstart⟩ | ⟨-, hstop⟩ | ⟨hwithin, hsame⟩
  · rw [hstart, hlength]
    exact ⟨le_rfl, add_le_add_right h.le _⟩
  · unfold stop at hstop
    rw [hstop]
    refine ⟨?_, le_rfl⟩
    linarith
  · rw [hsame]
    exact hwithin

theorem nearest_clamp (h : s.length < room.length) (hlength : p.length = s.length)
    (hp : p.Within room) (hne : p ≠ s.clamp room) :
    |(s.clamp room).start - s.start| < |p.start - s.start| := by
  have hstart : p.start ≠ (s.clamp room).start := fun heq => hne (Segment.ext heq hlength)
  obtain ⟨hfirst, hlast⟩ := hp
  rcases clamp_cases h with ⟨hbefore, hput⟩ | ⟨hbehind, hput⟩ | ⟨-, hsame⟩
  · rw [hput] at hstart ⊢
    have hfarther : room.start < p.start := lt_of_le_of_ne hfirst hstart.symm
    rw [abs_of_pos (sub_pos.2 hbefore), abs_of_pos (sub_pos.2 (hbefore.trans hfarther))]
    exact sub_lt_sub_right hfarther _
  · -- of two segments of one length, the one that ends first begins first
    have hends : (s.clamp room).start + s.length = room.stop := hput
    unfold stop at hlast hbehind hends
    rw [hlength] at hlast
    have hback : (s.clamp room).start < s.start := by linarith
    have hfarther : p.start < (s.clamp room).start := by
      refine lt_of_le_of_ne ?_ hstart
      linarith
    rw [abs_of_neg (sub_neg.2 hback), abs_of_neg (sub_neg.2 (hfarther.trans hback))]
    linarith
  · rw [hsame] at hstart ⊢
    rw [sub_self, abs_zero]
    exact abs_pos.2 (sub_ne_zero.2 hstart)

theorem isClamped_clamp (s room : Segment K) : IsClamped s room (s.clamp room) where
  length := rfl
  within := within_clamp
  nearest h _ := nearest_clamp h
  centred := center_clamp

theorem isClamped_iff : IsClamped s room c ↔ c = s.clamp room := by
  constructor
  · intro hc
    exact hc.unique (isClamped_clamp s room)
  · intro heq
    rw [heq]
    exact isClamped_clamp s room

theorem clamp_clamp (s room : Segment K) : (s.clamp room).clamp room = s.clamp room :=
  (isClamped_iff.1 (isClamped_clamp s room).again).symm

end Segment

-- =============================================================== both axes

namespace Rect

variable {r s : Rect K}

/-- A rectangle contains what is within it along both axes and begins before its ends. -/
theorem contains_iff_within :
    r.contains s = true
      ↔ ∀ i, (s.segment i).Within (r.segment i) ∧ (s.segment i).start < (r.segment i).stop := by
  rw [Axis.forall_iff]
  unfold contains
  simp only [Bool.and_eq_true, decide_eq_true_eq]
  show _ ↔ ((r.x ≤ s.x ∧ s.right ≤ r.right) ∧ s.x < r.right)
    ∧ (r.y ≤ s.y ∧ s.bottom ≤ r.bottom) ∧ s.y < r.bottom
  tauto

theorem segment_clamp (r area : Rect K) (i : Axis) :
    (r.clamp area).segment i = (r.segment i).clamp (area.segment i) := by
  cases i <;> rfl

/-- What it means that a rectangle is moved into an area. -/
structure MovesInto (r area : Rect K) : Prop where
  size : (r.clamp area).size = r.size
  /-- Along each axis it has the place that is asked for, and this is the only one. -/
  axes (i : Axis) (c : Segment K) :
    (r.segment i).IsClamped (area.segment i) c ↔ c = (r.clamp area).segment i
  unmoved (i : Axis) (hlength : (r.segment i).length < (area.segment i).length)
    (hin : (r.segment i).Within (area.segment i)) : (r.clamp area).segment i = r.segment i
  contained (hr : ∀ i, 0 < (r.segment i).length)
    (hsmaller : ∀ i, (r.segment i).length < (area.segment i).length) :
    area.contains (r.clamp area) = true
  again : (r.clamp area).clamp area = r.clamp area

variable [IsStrictOrderedRing K]

/-- Along each axis a rectangle is moved to the nearest place within the area, or over its centre
if it is too long. -/
theorem clamping_finds_the_nearest_place (r area : Rect K) : MovesInto r area := by
  constructor
  case size => rfl
  case axes =>
      intro i c
      rw [segment_clamp]
      exact Segment.isClamped_iff
  case unmoved =>
      intro i hlength hin
      rw [segment_clamp]
      by_contra hne
      have hnearer := Segment.nearest_clamp hlength rfl hin (Ne.symm hne)
      rw [sub_self, abs_zero] at hnearer
      exact absurd hnearer (abs_nonneg _).not_gt
  case contained =>
      intro hr hsmaller
      refine contains_iff_within.2 fun i => ?_
      rw [segment_clamp]
      have hwithin := Segment.within_clamp (hsmaller i)
      refine ⟨hwithin, lt_of_lt_of_le ?_ hwithin.2⟩
      exact lt_add_of_pos_right _ (hr i)
  case again =>
      refine ext_segments fun i => ?_
      rw [segment_clamp, segment_clamp, Segment.clamp_clamp]

/-- Too far to the left, and behind the lower edge. -/
theorem a_small_box_is_moved_inside :
    MovesInto (⟨-5, 9, 3, 2⟩ : Rect ℚ) ⟨0, 3, 100, 5⟩
      ∧ (⟨0, 3, 100, 5⟩ : Rect ℚ).contains ((⟨-5, 9, 3, 2⟩ : Rect ℚ).clamp ⟨0, 3, 100, 5⟩) = true
      ∧ (⟨-5, 9, 3, 2⟩ : Rect ℚ).clamp ⟨0, 3, 100, 5⟩ = ⟨0, 6, 3, 2⟩ := by
  have hmoves := clamping_finds_the_nearest_place (⟨-5, 9, 3, 2⟩ : Rect ℚ) ⟨0, 3, 100, 5⟩
  refine ⟨hmoves, hmoves.contained ?_ ?_, by decide +kernel⟩
  · exact Axis.forall_iff.2 (by decide +kernel)
  · exact Axis.forall_iff.2 (by decide +kernel)

/-- Too far to the left, and too tall for the area. -/
example : (⟨-5, 9, 3, 10⟩ : Rect ℚ).clamp ⟨0, 3, 100, 5⟩ = ⟨0, 0, 3, 10⟩ := by decide +kernel

end Rect

end Stagecraft
