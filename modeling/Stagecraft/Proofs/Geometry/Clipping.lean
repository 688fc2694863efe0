/-
What two rectangles have in common, in exact arithmetic.

A rectangle is a column of abscissas and a row of ordinates, each from its
start up to, but not including, its end. Clipping works axis by axis, by
comparing starts and ends in a nest of cases. Of two segments these cases
come down to one: the part in common begins at the later start and stops
at the earlier end, and it is there if it begins before it stops
(`clipAxis_eq`). No case asks whether a segment runs backwards, and none has
to: a segment that does stops before it begins, and so does what it has in
common with any other.
-/
import Stagecraft.Proofs.Exact

namespace Stagecraft

variable {K : Type} [Field K] [LinearOrder K] [FloorRing K]

namespace Rect

-- =============================================================== one axis

/-- Two ways to one answer. -/
theorem ite_or_of_eq {β : Type} {p q : Prop} [Decidable p] [Decidable q] {x y z : β}
    (hx : p → x = z) (hy : q → y = z) :
    (if p then some x else if q then some y else none) = if p ∨ q then some z else none := by
  by_cases hp : p
  · rw [if_pos hp, if_pos (.inl hp), hx hp]
  · rw [if_neg hp]
    by_cases hq : q
    · rw [if_pos hq, if_pos (.inr hq), hy hq]
    · rw [if_neg hq, if_neg (not_or_intro hp hq)]

variable [IsStrictOrderedRing K]

/-- What two segments have in common reaches from the later start to the earlier
end, if the one is before the other. -/
theorem clipAxis_eq (a aLength b bLength : K) :
    clipAxis a aLength b bLength
      = if max a b < min (a + aLength) (b + bLength) then
          some (max a b, min (a + aLength) (b + bLength) - max a b)
        else none := by
  unfold clipAxis
  dsimp only
  generalize a + aLength = aEnd
  generalize b + bLength = bEnd
  rw [ite_or_of_eq (z := max a b) (fun h => (max_eq_left h.1).symm)
    fun h => (max_eq_right h.1).symm]
  have hlength (start : K) := ite_or_of_eq (p := b < aEnd ∧ aEnd ≤ bEnd)
    (q := a < bEnd ∧ bEnd ≤ aEnd) (x := aEnd - start) (y := bEnd - start)
    (z := min aEnd bEnd - start) (fun h => by rw [min_eq_left h.2])
    fun h => by rw [min_eq_right h.2]
  simp only [hlength, Scalar.zero_exact]
  by_cases hover : max a b < min aEnd bEnd
  · obtain ⟨⟨haa, hba⟩, hab, hbb⟩ : (a < aEnd ∧ b < aEnd) ∧ a < bEnd ∧ b < bEnd := by
      simpa only [lt_min_iff, max_lt_iff] using hover
    have hstart : b ≤ a ∧ a < bEnd ∨ a ≤ b ∧ b < aEnd :=
      (le_total b a).imp (⟨·, hab⟩) (⟨·, hba⟩)
    have hstop : b < aEnd ∧ aEnd ≤ bEnd ∨ a < bEnd ∧ bEnd ≤ aEnd :=
      (le_total aEnd bEnd).imp (⟨hba, ·⟩) (⟨hab, ·⟩)
    rw [if_pos hover, if_pos hstart, Option.bind_some, if_pos hstop, Option.bind_some,
      if_neg (not_le.2 (sub_pos.2 hover))]
  · -- whatever start and end are found, the end is not behind the start
    rw [if_neg hover]
    split
    · rw [Option.bind_some]
      split
      · rw [Option.bind_some, if_pos (sub_nonpos.2 (not_lt.1 hover))]
      · rfl
    · rfl

-- =============================================================== both axes

/-- What two rectangles have in common, or nothing at the origin of the first. -/
theorem clip_eq (a b : Rect K) :
    a.clip b
      = if max a.x b.x < min a.right b.right ∧ max a.y b.y < min a.bottom b.bottom then
          ⟨max a.x b.x, max a.y b.y, min a.right b.right - max a.x b.x,
            min a.bottom b.bottom - max a.y b.y⟩
        else ⟨a.x, a.y, 0, 0⟩ := by
  unfold clip right bottom
  rw [clipAxis_eq, clipAxis_eq, Scalar.zero_exact]
  by_cases hx : max a.x b.x < min (a.x + a.width) (b.x + b.width)
  · rw [if_pos hx]
    by_cases hy : max a.y b.y < min (a.y + a.height) (b.y + b.height)
    · rw [if_pos hy, if_pos ⟨hx, hy⟩]
    · rw [if_neg hy, if_neg (show ¬(_ ∧ _) from fun h => hy h.2)]
  · rw [if_neg hx, if_neg (show ¬(_ ∧ _) from fun h => hx h.1)]

omit [IsStrictOrderedRing K] in
theorem containsPoint_iff {r : Rect K} {x y : K} :
    r.containsPoint x y = true ↔ (r.x ≤ x ∧ x < r.right) ∧ r.y ≤ y ∧ y < r.bottom := by
  unfold containsPoint
  simp only [Bool.and_eq_true, decide_eq_true_eq, and_assoc]

/-- A point lies in what two rectangles of any size have in common if it lies in
both. -/
theorem clip_contains_the_shared_points (a b : Rect K) (x y : K) :
    (a.clip b).containsPoint x y = true
      ↔ a.containsPoint x y = true ∧ b.containsPoint x y = true := by
  have hboth : a.containsPoint x y = true ∧ b.containsPoint x y = true
      ↔ (max a.x b.x ≤ x ∧ x < min a.right b.right)
        ∧ max a.y b.y ≤ y ∧ y < min a.bottom b.bottom := by
    simp only [containsPoint_iff, max_le_iff, lt_min_iff]
    tauto
  rw [hboth, clip_eq]
  split
  next hover =>
    rw [containsPoint_iff]
    unfold right bottom
    simp only [add_sub_cancel]
  next hapart =>
    -- the empty rectangle has no point, and where nothing overlaps none is shared
    have hnone : ¬((⟨a.x, a.y, 0, 0⟩ : Rect K).containsPoint x y = true) := by
      rw [containsPoint_iff]
      rintro ⟨⟨hx, hx'⟩, -⟩
      unfold right at hx'
      rw [add_zero] at hx'
      exact absurd hx' (not_lt.2 hx)
    refine iff_of_false hnone ?_
    rintro ⟨⟨hx, hx'⟩, hy, hy'⟩
    exact hapart ⟨hx.trans_lt hx', hy.trans_lt hy'⟩

/-- Of two rectangles that overlap in part, a corner of what they share; and of one that
runs backwards, which has no points to share. -/
theorem a_corner_is_shared :
    ((⟨1, 1, 4, 3⟩ : Rect ℚ).clip ⟨-2, 2, 5, 9⟩).containsPoint 1 2 = true
      ∧ ((⟨4, 0, -3, 2⟩ : Rect ℚ).clip ⟨0, 0, 9, 9⟩).containsPoint 2 1 = false := by
  constructor
  · rw [clip_contains_the_shared_points]
    decide +kernel
  · rw [Bool.eq_false_iff, Ne, clip_contains_the_shared_points]
    decide +kernel

end Rect

end Stagecraft
