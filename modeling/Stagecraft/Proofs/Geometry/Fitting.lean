/-
Rectangles fitted into others, in exact arithmetic.

A rectangle that is larger than a target is scaled down until no side is, by
one number for both sides (`Rect.scale`); its sides are then cut to whole
numbers, and it is centred over the target. Three roundings follow one
another, the sides and half of what is left along each axis, and all of them
go down. So a side that was not too long before the cut is not too long after it,
the margin before the segment is never the larger one, and it lacks less
than two units of the one behind (`Segment.margins_centredOver`). That no margin
is negative is all that containment asks for, except that something of no
length has to begin before the end, and this half of the room does.

# What fits already

A rectangle that fits is not scaled, but its sides are cut all the same. It
keeps its size only if they are whole numbers (`fitting_cuts_the_sides`), and
half a unit by half a unit becomes nothing.
-/
import Stagecraft.Proofs.Geometry.Clamping

namespace Stagecraft

variable {K : Type} [Field K] [LinearOrder K] [FloorRing K]

-- ============================================================== one axis

namespace Segment

/-- The margin before the segment in a room. -/
def leading (s room : Segment K) : K := s.start - room.start

/-- The margin behind the segment in a room. -/
def trailing (s room : Segment K) : K := room.stop - s.stop

/-- A segment of some length, centred over a room. -/
def centredOver (room : Segment K) (length : K) : Segment K :=
  ⟨room.start + Scalar.half (room.length - length), length⟩

variable {room : Segment K} {length : K}

theorem leading_centredOver (room : Segment K) (length : K) :
    (room.centredOver length).leading room = Scalar.half (room.length - length) :=
  add_sub_cancel_left _ _

theorem trailing_centredOver (room : Segment K) (length : K) :
    (room.centredOver length).trailing room
      = room.length - length - Scalar.half (room.length - length) := by
  unfold trailing stop centredOver
  ring

variable [IsStrictOrderedRing K]

/-- The margins differ by less than two units, and the one behind is not the smaller
one. -/
theorem margins_centredOver (room : Segment K) (length : K) :
    (room.centredOver length).leading room ≤ (room.centredOver length).trailing room
      ∧ (room.centredOver length).trailing room < (room.centredOver length).leading room + 2 := by
  have hle := Scalar.half_le (room.length - length)
  have hlt := Scalar.lt_half_add_one (room.length - length)
  rw [leading_centredOver, trailing_centredOver]
  constructor
  · linarith
  · linarith

theorem within_centredOver (h : length ≤ room.length) : (room.centredOver length).Within room := by
  have hleading : 0 ≤ (room.centredOver length).leading room := by
    rw [leading_centredOver]
    exact Scalar.half_nonneg (sub_nonneg.2 h)
  have htrailing : 0 ≤ (room.centredOver length).trailing room :=
    hleading.trans (margins_centredOver room length).1
  exact ⟨sub_nonneg.1 hleading, sub_nonneg.1 htrailing⟩

theorem start_centredOver_lt (hlength : 0 ≤ length) (hroom : 0 < room.length) :
    (room.centredOver length).start < room.stop := by
  have hle := Scalar.half_le (room.length - length)
  unfold centredOver stop
  dsimp only
  linarith

end Segment

-- =============================================================== both axes

namespace Rect

variable {r target : Rect K}

/-- How many times smaller a rectangle has to be to fit a target, at least once. -/
def scale (r target : Rect K) : K :=
  max (max (r.width / target.width) (r.height / target.height)) 1

theorem segment_fit (r target : Rect K) (i : Axis) :
    (r.fit target).segment i
      = (target.segment i).centredOver ⌊(r.segment i).length / r.scale target⌋ := by
  unfold fit scale
  rw [Scalar.maximum_exact, Scalar.maximum_exact, Scalar.one_exact]
  cases i <;> rfl

/-- Each side is scaled, and then cut to a whole number. -/
theorem length_fit (r target : Rect K) (i : Axis) :
    ((r.fit target).segment i).length = ⌊(r.segment i).length / r.scale target⌋ :=
  congrArg Segment.length (segment_fit r target i)

theorem length_fit_le (r target : Rect K) (i : Axis) :
    ((r.fit target).segment i).length ≤ (r.segment i).length / r.scale target := by
  rw [length_fit]
  exact Int.floor_le _

theorem size_fit (r target : Rect K) :
    (r.fit target).size = ((⌊r.width / r.scale target⌋ : K), (⌊r.height / r.scale target⌋ : K)) :=
  Prod.ext (length_fit r target .across) (length_fit r target .down)

theorem one_le_scale (r target : Rect K) : 1 ≤ r.scale target := le_max_right _ _

theorem scale_pos (r target : Rect K) : 0 < r.scale target :=
  zero_lt_one.trans_le (one_le_scale r target)

theorem isBox_iff_segments : r.IsBox ↔ ∀ i, 0 < (r.segment i).length := by
  rw [Axis.forall_iff]
  rfl

theorem div_le_scale (r target : Rect K) (i : Axis) :
    (r.segment i).length / (target.segment i).length ≤ r.scale target := by
  cases i with
  | across => exact (le_max_left _ _).trans (le_max_left _ _)
  | down => exact (le_max_right _ _).trans (le_max_left _ _)

/-- What it means that a rectangle is fitted into a target. -/
structure FitsInto (r target : Rect K) : Prop where
  contained : target.contains (r.fit target) = true
  not_larger (i : Axis) : ((r.fit target).segment i).length ≤ (r.segment i).length
  /-- Up to less than a unit, each side is scaled by the same number. -/
  scaled (i : Axis) :
    ((r.fit target).segment i).length ≤ (r.segment i).length / r.scale target
      ∧ (r.segment i).length / r.scale target < ((r.fit target).segment i).length + 1
  /-- Up to less than two units, the margins on both sides are the same. -/
  centred (i : Axis) :
    ((r.fit target).segment i).leading (target.segment i)
        ≤ ((r.fit target).segment i).trailing (target.segment i)
      ∧ ((r.fit target).segment i).trailing (target.segment i)
        < ((r.fit target).segment i).leading (target.segment i) + 2

section Scaled

variable [IsStrictOrderedRing K]

/-- Once scaled, no side is too long. -/
theorem div_scale_le (htarget : target.IsBox) (r : Rect K) (i : Axis) :
    (r.segment i).length / r.scale target ≤ (target.segment i).length :=
  (div_le_comm₀ (isBox_iff_segments.1 htarget i) (scale_pos r target)).1 (div_le_scale r target i)

/-- What is fitted has no side below zero and none that is too long. -/
theorem length_fit_mem (hr : r.IsBox) (htarget : target.IsBox) (i : Axis) :
    0 ≤ ((r.fit target).segment i).length
      ∧ ((r.fit target).segment i).length ≤ (target.segment i).length := by
  constructor
  · have hpos : 0 < (r.segment i).length / r.scale target :=
      div_pos (isBox_iff_segments.1 hr i) (scale_pos r target)
    rw [length_fit]
    exact_mod_cast Int.floor_nonneg.2 hpos.le
  · exact (length_fit_le r target i).trans (div_scale_le htarget r i)

/-- A box is fitted into another by one scale for both sides, up to a unit that is cut, and
stands in its centre, up to two. -/
theorem fitting_scales_and_centres (hr : r.IsBox) (htarget : target.IsBox) :
    FitsInto r target := by
  constructor
  case contained =>
      refine contains_iff_within.2 fun i => ?_
      obtain ⟨hnonneg, hlong⟩ := length_fit_mem hr htarget i
      rw [length_fit] at hnonneg hlong
      rw [segment_fit]
      exact ⟨Segment.within_centredOver hlong,
        Segment.start_centredOver_lt hnonneg (isBox_iff_segments.1 htarget i)⟩
  case not_larger =>
      intro i
      have hpos := isBox_iff_segments.1 hr i
      exact (length_fit_le r target i).trans (div_le_self hpos.le (one_le_scale r target))
  case scaled =>
      intro i
      refine ⟨length_fit_le r target i, ?_⟩
      rw [length_fit]
      exact Int.lt_floor_add_one _
  case centred =>
      intro i
      rw [segment_fit]
      exact Segment.margins_centredOver _ _

end Scaled

/-- Two and a half times too high, and cut to a width of one. -/
theorem a_high_box_is_scaled :
    (⟨0, 0, 7 / 2, 10⟩ : Rect ℚ).IsBox ∧ (⟨1, 1, 3, 4⟩ : Rect ℚ).IsBox
      ∧ FitsInto (⟨0, 0, 7 / 2, 10⟩ : Rect ℚ) ⟨1, 1, 3, 4⟩
      ∧ (⟨0, 0, 7 / 2, 10⟩ : Rect ℚ).fit ⟨1, 1, 3, 4⟩ = ⟨2, 1, 1, 4⟩ := by
  have hr : (⟨0, 0, 7 / 2, 10⟩ : Rect ℚ).IsBox := by decide +kernel
  have htarget : (⟨1, 1, 3, 4⟩ : Rect ℚ).IsBox := by decide +kernel
  exact ⟨hr, htarget, fitting_scales_and_centres hr htarget, by decide +kernel⟩

-- ==================================================== what fits already

/-- Whether no side of the rectangle is longer than that of the target. -/
def Fits (r target : Rect K) : Prop := r.width ≤ target.width ∧ r.height ≤ target.height

instance (r target : Rect K) : Decidable (r.Fits target) := inferInstanceAs (Decidable (_ ∧ _))

/-- Whether both sides are whole numbers. -/
def HasWholeSides (r : Rect K) : Prop := (∃ n : ℤ, r.width = n) ∧ ∃ n : ℤ, r.height = n

/-- What becomes of the size of a rectangle that is fitted. -/
structure CutsSides (r target : Rect K) : Prop where
  cut (h : r.Fits target) : (r.fit target).size = ((⌊r.width⌋ : K), (⌊r.height⌋ : K))
  kept : (r.fit target).size = r.size ↔ r.Fits target ∧ r.HasWholeSides

section Cut

variable [IsStrictOrderedRing K]

/-- A rectangle is not scaled exactly if it fits. -/
theorem scale_eq_one_iff (htarget : target.IsBox) : r.scale target = 1 ↔ r.Fits target := by
  unfold scale Fits
  rw [max_eq_right_iff, max_le_iff, div_le_one htarget.1, div_le_one htarget.2]

/-- A length that is scaled, cut and still the same was neither scaled nor cut. -/
theorem floor_div_eq_self_iff {length k : K} (hlength : 0 < length) (hk : 1 ≤ k) :
    (⌊length / k⌋ : K) = length ↔ k = 1 ∧ ∃ n : ℤ, length = n := by
  constructor
  · intro hsame
    have hle : length ≤ length / k := hsame.symm.trans_le (Int.floor_le _)
    rw [le_div_iff₀ (zero_lt_one.trans_le hk), mul_le_iff_le_one_right hlength] at hle
    exact ⟨le_antisymm hle hk, _, hsame.symm⟩
  · rintro ⟨rfl, n, rfl⟩
    rw [div_one, Int.floor_intCast]

/-- A box that fits is not scaled, but its sides are cut to whole numbers all the same. -/
theorem fitting_cuts_the_sides (hr : r.IsBox) (htarget : target.IsBox) : CutsSides r target := by
  constructor
  case cut =>
      intro h
      rw [size_fit, (scale_eq_one_iff htarget).2 h, div_one, div_one]
  case kept =>
      have hscale := one_le_scale r target
      rw [size_fit, ← scale_eq_one_iff htarget]
      unfold size HasWholeSides
      rw [Prod.mk.injEq, floor_div_eq_self_iff hr.1 hscale, floor_div_eq_self_iff hr.2 hscale]
      tauto

end Cut

/-- Of two boxes that fit, one with whole sides, the other not. -/
theorem a_whole_box_is_kept :
    ((⟨0, 0, 10, 20⟩ : Rect ℚ).fit ⟨0, 0, 201 / 2, 100⟩).size = (10, 20)
      ∧ ((⟨0, 0, 21 / 2, 20⟩ : Rect ℚ).fit ⟨0, 0, 201 / 2, 100⟩).size
        = ((⌊(21 / 2 : ℚ)⌋ : ℚ), (⌊(20 : ℚ)⌋ : ℚ)) := by
  have htarget : (⟨0, 0, 201 / 2, 100⟩ : Rect ℚ).IsBox := by decide +kernel
  have hwhole := fitting_cuts_the_sides (r := (⟨0, 0, 10, 20⟩ : Rect ℚ)) (by decide +kernel) htarget
  have hpart := fitting_cuts_the_sides (r := (⟨0, 0, 21 / 2, 20⟩ : Rect ℚ)) (by decide +kernel)
    htarget
  refine ⟨hwhole.kept.2 ⟨by decide +kernel, ⟨10, by norm_num⟩, 20, by norm_num⟩, ?_⟩
  exact hpart.cut (by decide +kernel)

/-- A box that fits and loses half a unit of its width. -/
theorem half_a_unit_is_cut :
    (⟨0, 0, 21 / 2, 20⟩ : Rect ℚ).IsBox ∧ (⟨0, 0, 201 / 2, 100⟩ : Rect ℚ).IsBox
      ∧ (⟨0, 0, 21 / 2, 20⟩ : Rect ℚ).Fits ⟨0, 0, 201 / 2, 100⟩
      ∧ (⟨0, 0, 21 / 2, 20⟩ : Rect ℚ).fit ⟨0, 0, 201 / 2, 100⟩ = ⟨45, 40, 10, 20⟩
      ∧ ((⟨0, 0, 21 / 2, 20⟩ : Rect ℚ).fit ⟨0, 0, 201 / 2, 100⟩).size
        ≠ (⟨0, 0, 21 / 2, 20⟩ : Rect ℚ).size := by
  decide +kernel

end Rect

end Stagecraft
