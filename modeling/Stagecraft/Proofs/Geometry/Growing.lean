/-
Rectangles that are grown, in exact arithmetic.

Along an axis, half of what a segment grows by is put before its start. That
half is a whole number, and so are the halves of the lengths that the two
centres are measured with. Of the three, each is cut on its own, and two
lengths that are halved one by one lose a unit that their sum does not lose
if both are odd (`Scalar.half_add_intCast`). So the centre stays unless both the
length and the growth are odd, and then it moves by one unit
(`growing_moves_an_odd_centre`). Where lengths are no whole numbers, it stays or
moves by that unit, too, and it never moves the other way.
-/
import Stagecraft.Proofs.Geometry.Clamping

namespace Stagecraft

variable {K : Type} [Field K] [LinearOrder K] [FloorRing K]

-- ================================================================ halves

namespace Scalar

variable [IsStrictOrderedRing K]

theorem half_eq_ediv (x : K) : half x = ((⌊x⌋ / 2 : ℤ) : K) := by
  rw [half_exact]
  exact congrArg Int.cast (Int.floor_div_natCast x 2)

/-- The halves of two lengths are the half of their sum, or lack a unit. -/
theorem half_add_mem (x y : K) :
    half (x + y) = half x + half y ∨ half (x + y) = half x + half y + 1 := by
  have hle := Int.le_floor_add x y
  have hge := Int.le_floor_add_floor x y
  have hhalf : ⌊x + y⌋ / 2 = ⌊x⌋ / 2 + ⌊y⌋ / 2 ∨ ⌊x + y⌋ / 2 = ⌊x⌋ / 2 + ⌊y⌋ / 2 + 1 := by omega
  rw [half_eq_ediv, half_eq_ediv, half_eq_ediv]
  exact_mod_cast hhalf

/-- The unit that two lengths lose when they are halved one by one. -/
def oddUnit (m n : ℤ) : ℤ := if Odd m ∧ Odd n then 1 else 0

theorem oddUnit_eq_zero_iff {m n : ℤ} : oddUnit m n = 0 ↔ ¬(Odd m ∧ Odd n) := by
  unfold oddUnit
  split_ifs with h
  · exact iff_of_false one_ne_zero (not_not_intro h)
  · exact iff_of_true rfl h

theorem half_add_intCast (m n : ℤ) :
    half ((m : K) + n) = half (m : K) + half (n : K) + oddUnit m n := by
  have hhalf : (m + n) / 2 = m / 2 + n / 2 + oddUnit m n := by
    unfold oddUnit
    simp only [Int.odd_iff]
    split_ifs <;> omega
  rw [← Int.cast_add, half_eq_ediv, half_eq_ediv, half_eq_ediv]
  simp only [Int.floor_intCast]
  exact_mod_cast hhalf

end Scalar

-- ============================================================== one axis

namespace Segment

/-- The segment grown by a length around its centre. -/
def inflate (s : Segment K) (growth : K) : Segment K :=
  ⟨s.start - Scalar.half growth, s.length + growth⟩

theorem center_inflate (s : Segment K) (growth : K) :
    (s.inflate growth).center
      = s.center + (Scalar.half (s.length + growth)
        - (Scalar.half s.length + Scalar.half growth)) := by
  unfold center inflate
  ring

variable [IsStrictOrderedRing K]

/-- The centre stays or moves by a unit. -/
theorem center_inflate_mem (s : Segment K) (growth : K) :
    (s.inflate growth).center = s.center ∨ (s.inflate growth).center = s.center + 1 := by
  rw [center_inflate]
  rcases Scalar.half_add_mem s.length growth with h | h
  · left
    rw [h, sub_self, add_zero]
  · right
    rw [h, add_sub_cancel_left]

theorem center_inflate_intCast {s : Segment K} {growth : K} {m n : ℤ} (hlength : s.length = m)
    (hgrowth : growth = n) :
    (s.inflate growth).center = s.center + Scalar.oddUnit m n := by
  rw [center_inflate, hlength, hgrowth, Scalar.half_add_intCast, add_sub_cancel_left]

end Segment

-- =============================================================== both axes

namespace Rect

/-- What belongs to an axis, of two things. -/
def Axis.pick {β : Type} (dx dy : β) : Axis → β
  | .across => dx
  | .down => dy

theorem segment_inflate (r : Rect K) (dx dy : K) (i : Axis) :
    (r.inflate dx dy).segment i = (r.segment i).inflate (i.pick dx dy) := by
  cases i <;> rfl

theorem anchor_center (r : Rect K) :
    r.anchor .center = ((r.segment .across).center, (r.segment .down).center) := rfl

/-- What growing does to the size and the centre of a rectangle. -/
structure GrowsBy (r : Rect K) (dx dy : K) : Prop where
  size : (r.inflate dx dy).size = (r.width + dx, r.height + dy)
  stays_or_moves (i : Axis) : ((r.inflate dx dy).segment i).center = (r.segment i).center
    ∨ ((r.inflate dx dy).segment i).center = (r.segment i).center + 1
  moves_if_odd (i : Axis) (m n : ℤ) (hlength : (r.segment i).length = m)
    (hgrowth : i.pick dx dy = n) :
    ((r.inflate dx dy).segment i).center = (r.segment i).center + Scalar.oddUnit m n
  /-- In whole numbers, the centre stays unless something odd grows by something odd. -/
  stays_iff (width height m n : ℤ) (hwidth : r.width = width) (hheight : r.height = height)
    (hdx : dx = m) (hdy : dy = n) : (r.inflate dx dy).anchor .center = r.anchor .center
      ↔ ¬(Odd width ∧ Odd m) ∧ ¬(Odd height ∧ Odd n)

variable [IsStrictOrderedRing K]

theorem center_inflate_intCast (r : Rect K) (dx dy : K) (i : Axis) {m n : ℤ}
    (hlength : (r.segment i).length = m) (hgrowth : i.pick dx dy = n) :
    ((r.inflate dx dy).segment i).center = (r.segment i).center + Scalar.oddUnit m n := by
  rw [segment_inflate]
  exact Segment.center_inflate_intCast hlength hgrowth

/-- Growing keeps the centre of a rectangle or moves it by a unit, which it does where an odd
length grows by an odd amount. -/
theorem growing_moves_an_odd_centre (r : Rect K) (dx dy : K) : GrowsBy r dx dy := by
  constructor
  case size => rfl
  case stays_or_moves =>
      intro i
      rw [segment_inflate]
      exact Segment.center_inflate_mem _ _
  case moves_if_odd => exact fun i m n => center_inflate_intCast r dx dy i
  case stays_iff =>
      intro width height m n hwidth hheight hdx hdy
      have hacross := center_inflate_intCast r dx dy .across hwidth hdx
      have hdown := center_inflate_intCast r dx dy .down hheight hdy
      rw [anchor_center, anchor_center, hacross, hdown, Prod.mk.injEq, add_eq_left, add_eq_left,
        Int.cast_eq_zero, Int.cast_eq_zero, Scalar.oddUnit_eq_zero_iff, Scalar.oddUnit_eq_zero_iff]

/-- Of an odd width and an even height, both grown by one. -/
theorem an_even_height_keeps_its_centre :
    ((⟨0, 0, 5, 4⟩ : Rect ℚ).segment .across).length = (5 : ℤ)
      ∧ (((⟨0, 0, 5, 4⟩ : Rect ℚ).inflate 1 1).segment .across).center = 3
      ∧ (((⟨0, 0, 5, 4⟩ : Rect ℚ).inflate 1 1).segment .down).center = 2
      ∧ ((⟨0, 0, 5, 4⟩ : Rect ℚ).inflate 2 1).anchor .center
        = (⟨0, 0, 5, 4⟩ : Rect ℚ).anchor .center := by
  have hgrows := growing_moves_an_odd_centre (⟨0, 0, 5, 4⟩ : Rect ℚ) 1 1
  have hwider := growing_moves_an_odd_centre (⟨0, 0, 5, 4⟩ : Rect ℚ) 2 1
  refine ⟨by norm_num [segment], ?_, ?_, ?_⟩
  · rw [hgrows.moves_if_odd .across 5 1 (by norm_num [segment]) (by norm_num [Axis.pick])]
    decide +kernel
  · rw [hgrows.moves_if_odd .down 4 1 (by norm_num [segment]) (by norm_num [Axis.pick])]
    decide +kernel
  · refine (hwider.stays_iff 5 4 2 1 ?_ ?_ ?_ ?_).2 (by decide)
    all_goals norm_num

/-- A unit by a unit, grown by a unit along both axes, is centred a unit away. -/
theorem an_odd_box_is_moved :
    (⟨0, 0, 1, 1⟩ : Rect ℚ).inflate 1 1 = ⟨0, 0, 2, 2⟩
      ∧ ((⟨0, 0, 1, 1⟩ : Rect ℚ).inflate 1 1).anchor .center = (1, 1)
      ∧ ((⟨0, 0, 1, 1⟩ : Rect ℚ).inflate 1 1).anchor .center
        ≠ (⟨0, 0, 1, 1⟩ : Rect ℚ).anchor .center := by
  decide +kernel

end Rect

end Stagecraft
