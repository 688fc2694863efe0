/-
Rectangles inside of each other, in exact arithmetic.

A rectangle is known by its four edges. It lies inside of another one if no
edge of it lies beyond that of the other; this orders all rectangles, and the
union, which takes the outermost edge on each side, is the join. A union of
many is the least rectangle that has all of them inside, and since there is
one least, it does not matter in which order they are joined, how often, or
with which of them one begins (`unionAll_eq_of_same`): nothing about the fold
is needed but that it is an upper bound and below all others.

Containment asks for more than this order, as the contained rectangle has to
begin before the edges of the other. For a box, a rectangle with a width and
a height above zero, that is no more (`contains_iff`), and so containment
orders the boxes.
-/
import Mathlib.Order.Bounds.Basic
import Stagecraft.Proofs.Geometry.Clipping

namespace Stagecraft

variable {K : Type} [Field K] [LinearOrder K] [FloorRing K]

-- =============================================================== extremes

theorem Scalar.minimum_exact (x y : K) : minimum x y = min x y := by
  unfold minimum
  rw [isNumber_exact, if_pos rfl]
  split
  next h => exact (min_eq_right h.le).symm
  next h => exact (min_eq_left (not_lt.1 h)).symm

theorem Scalar.maximum_exact (x y : K) : maximum x y = max x y := by
  unfold maximum
  rw [isNumber_exact, if_pos rfl]
  split
  next h => exact (max_eq_right h.le).symm
  next h => exact (max_eq_left (not_lt.1 h)).symm

namespace Rect

variable {a b c r s : Rect K}

-- ================================================================== edges

/-- A rectangle is known by its edges. -/
theorem ext_edges (hx : r.x = s.x) (hright : r.right = s.right) (hy : r.y = s.y)
    (hbottom : r.bottom = s.bottom) : r = s := by
  obtain ⟨x, y, width, height⟩ := r
  obtain ⟨x', y', width', height'⟩ := s
  obtain rfl : x = x' := hx
  obtain rfl : y = y' := hy
  obtain rfl : width = width' := add_left_cancel hright
  obtain rfl : height = height' := add_left_cancel hbottom
  rfl

/-- A rectangle is below another one if no edge of it lies beyond that of the other. -/
instance inside : PartialOrder (Rect K) where
  le s r := (r.x ≤ s.x ∧ s.right ≤ r.right) ∧ r.y ≤ s.y ∧ s.bottom ≤ r.bottom
  le_refl _ := ⟨⟨le_rfl, le_rfl⟩, le_rfl, le_rfl⟩
  le_trans _ _ _ h k :=
    ⟨⟨k.1.1.trans h.1.1, h.1.2.trans k.1.2⟩, k.2.1.trans h.2.1, h.2.2.trans k.2.2⟩
  le_antisymm _ _ h k :=
    ext_edges (k.1.1.antisymm h.1.1) (h.1.2.antisymm k.1.2) (k.2.1.antisymm h.2.1)
      (h.2.2.antisymm k.2.2)

theorem le_def : s ≤ r ↔ (r.x ≤ s.x ∧ s.right ≤ r.right) ∧ r.y ≤ s.y ∧ s.bottom ≤ r.bottom :=
  .rfl

-- ================================================================= unions

theorem x_union (a b : Rect K) : (a.union b).x = min a.x b.x := Scalar.minimum_exact _ _

theorem y_union (a b : Rect K) : (a.union b).y = min a.y b.y := Scalar.minimum_exact _ _

theorem right_union (a b : Rect K) : (a.union b).right = max a.right b.right := by
  unfold union
  rw [Scalar.maximum_exact, Scalar.maximum_exact]
  exact add_sub_cancel _ _

theorem bottom_union (a b : Rect K) : (a.union b).bottom = max a.bottom b.bottom := by
  unfold union
  rw [Scalar.maximum_exact, Scalar.maximum_exact]
  exact add_sub_cancel _ _

/-- The union is the join. -/
theorem union_le : a.union b ≤ c ↔ a ≤ c ∧ b ≤ c := by
  simp only [le_def, x_union, y_union, right_union, bottom_union, le_min_iff, max_le_iff]
  tauto

/-- Joining a rectangle changes nothing exactly if it lies inside. -/
theorem union_eq_left_iff : a.union b = a ↔ b ≤ a := by
  constructor
  · intro hunion
    exact (union_le.1 hunion.le).2
  · intro hle
    exact le_antisymm (union_le.2 ⟨le_rfl, hle⟩) (union_le.1 le_rfl).1

theorem isLUB_unionAll (r : Rect K) (rs : List (Rect K)) :
    IsLUB {s | s ∈ r :: rs} (r.unionAll rs) := by
  rw [isLUB_iff_le_iff]
  intro c
  show r.unionAll rs ≤ c ↔ ∀ s ∈ r :: rs, s ≤ c
  induction rs generalizing r with
  | nil => simp [unionAll]
  | cons s rs ih =>
      have hfold : r.unionAll (s :: rs) = (r.union s).unionAll rs := rfl
      rw [hfold, ih, List.forall_mem_cons, union_le, List.forall_mem_cons, List.forall_mem_cons,
        and_assoc]

/-- The union of many is determined by which rectangles there are. -/
theorem unionAll_eq_of_same {rs ss : List (Rect K)} (h : ∀ t, t ∈ r :: rs ↔ t ∈ s :: ss) :
    r.unionAll rs = s.unionAll ss := by
  have hsame : {t | t ∈ r :: rs} = {t | t ∈ s :: ss} := Set.ext h
  have hleast := isLUB_unionAll r rs
  rw [hsame] at hleast
  exact hleast.unique (isLUB_unionAll s ss)

-- ================================================================== boxes

/-- Whether the rectangle has a width and a height above zero. -/
def IsBox (r : Rect K) : Prop := 0 < r.width ∧ 0 < r.height

instance (r : Rect K) : Decidable r.IsBox := inferInstanceAs (Decidable (_ ∧ _))

variable [IsStrictOrderedRing K]

theorem isBox_iff : r.IsBox ↔ r.x < r.right ∧ r.y < r.bottom := by
  unfold IsBox right bottom
  rw [lt_add_iff_pos_right, lt_add_iff_pos_right]

/-- A box begins before the edges of what it lies in. -/
theorem contains_iff (hs : s.IsBox) : r.contains s = true ↔ s ≤ r := by
  obtain ⟨hx, hy⟩ := isBox_iff.1 hs
  rw [le_def]
  unfold contains
  simp only [Bool.and_eq_true, decide_eq_true_eq]
  constructor
  · rintro ⟨⟨⟨⟨⟨hleft, htop⟩, hright⟩, hbottom⟩, -⟩, -⟩
    exact ⟨⟨hleft, hright⟩, htop, hbottom⟩
  · rintro ⟨⟨hleft, hright⟩, htop, hbottom⟩
    exact ⟨⟨⟨⟨⟨hleft, htop⟩, hright⟩, hbottom⟩, hx.trans_le hright⟩, hy.trans_le hbottom⟩

/-- What has a box inside is a box. -/
theorem IsBox.of_le (hs : s.IsBox) (h : s ≤ r) : r.IsBox := by
  rw [isBox_iff] at hs ⊢
  exact ⟨h.1.1.trans_lt (hs.1.trans_le h.1.2), h.2.1.trans_lt (hs.2.trans_le h.2.2)⟩

/-- Clipping to a box leaves all of the box exactly if it lies inside. -/
theorem clip_eq_right_iff (hb : b.IsBox) : a.clip b = b ↔ b ≤ a := by
  constructor
  · intro hclip
    rw [clip_eq] at hclip
    split at hclip
    next =>
      have hright : min a.right b.right = b.right :=
        (add_sub_cancel _ _).symm.trans (congrArg right hclip)
      have hbottom : min a.bottom b.bottom = b.bottom :=
        (add_sub_cancel _ _).symm.trans (congrArg bottom hclip)
      exact ⟨⟨max_eq_right_iff.1 (congrArg x hclip), min_eq_right_iff.1 hright⟩,
        max_eq_right_iff.1 (congrArg y hclip), min_eq_right_iff.1 hbottom⟩
    next =>
      -- nothing in common has no width
      have hwidth : (0 : K) = b.width := congrArg width hclip
      exact absurd hb.1 hwidth.not_lt
  · rintro ⟨⟨hx, hright⟩, hy, hbottom⟩
    rw [clip_eq, max_eq_right hx, max_eq_right hy, min_eq_right hright, min_eq_right hbottom,
      if_pos (isBox_iff.1 hb)]
    exact ext_edges rfl (add_sub_cancel _ _) rfl (add_sub_cancel _ _)

-- ======================================================== the order of boxes

/-- Of all boxes that contain the boxes of a list, the least. -/
structure IsLeastCover (cover : Rect K) (rs : List (Rect K)) : Prop where
  isBox : cover.IsBox
  contains (s : Rect K) (hs : s ∈ rs) : cover.contains s = true
  least (c : Rect K) (hc : c.IsBox) (hall : ∀ s ∈ rs, c.contains s = true) :
    c.contains cover = true

/-- Containment as an order of boxes, with unions as joins. -/
structure OrdersBoxes (K : Type) [Field K] [LinearOrder K] [FloorRing K] : Prop where
  refl (a : Rect K) (ha : a.IsBox) : a.contains a = true
  antisymm (a b : Rect K) (ha : a.IsBox) (hb : b.IsBox) (hab : a.contains b = true)
    (hba : b.contains a = true) : a = b
  trans (a b c : Rect K) (ha : a.IsBox) (hb : b.IsBox) (hc : c.IsBox)
    (hab : a.contains b = true) (hbc : b.contains c = true) : a.contains c = true
  union (a b : Rect K) (ha : a.IsBox) (hb : b.IsBox) : IsLeastCover (a.union b) [a, b]
  unionAll (r : Rect K) (rs : List (Rect K)) (hrs : ∀ s ∈ r :: rs, s.IsBox) :
    IsLeastCover (r.unionAll rs) (r :: rs)
  /-- Neither the order nor repetitions count, nor which of the boxes is the first. -/
  same (r s : Rect K) (rs ss : List (Rect K)) (hrs : ∀ t ∈ r :: rs, t.IsBox)
    (hsame : ∀ t, t ∈ r :: rs ↔ t ∈ s :: ss) : r.unionAll rs = s.unionAll ss
  /-- What is contained adds nothing to a union. -/
  absorbs (a b : Rect K) (ha : a.IsBox) (hb : b.IsBox) : a.contains b = true ↔ a.union b = a
  /-- What is contained loses nothing when it is clipped. -/
  clips (a b : Rect K) (ha : a.IsBox) (hb : b.IsBox) : a.contains b = true ↔ a.clip b = b

theorem isLeastCover_unionAll {rs : List (Rect K)} (hrs : ∀ s ∈ r :: rs, s.IsBox) :
    IsLeastCover (r.unionAll rs) (r :: rs) := by
  have hlub := isLUB_unionAll r rs
  have hbox : (r.unionAll rs).IsBox := (hrs r List.mem_cons_self).of_le (hlub.1 List.mem_cons_self)
  constructor
  case isBox => exact hbox
  case contains => exact fun s hs => (contains_iff (hrs s hs)).2 (hlub.1 hs)
  case least =>
      intro c hc hall
      rw [contains_iff hbox]
      exact hlub.2 fun s hs => (contains_iff (hrs s hs)).1 (hall s hs)

/-- Containment is an order of the boxes, in which unions are least upper bounds and clipping
gives the lesser of two that are in order. -/
theorem containment_orders_boxes : OrdersBoxes K where
  refl a ha := (contains_iff ha).2 le_rfl
  antisymm a b ha hb hab hba :=
    le_antisymm ((contains_iff ha).1 hba) ((contains_iff hb).1 hab)
  trans a b c _ hb hc hab hbc :=
    (contains_iff hc).2 (((contains_iff hc).1 hbc).trans ((contains_iff hb).1 hab))
  union a b ha hb := by
    have hpair : ∀ s ∈ [a, b], s.IsBox := by simp [ha, hb]
    exact isLeastCover_unionAll hpair
  unionAll _ _ := isLeastCover_unionAll
  same _ _ _ _ _ := unionAll_eq_of_same
  absorbs _ _ _ hb := (contains_iff hb).trans union_eq_left_iff.symm
  clips _ _ _ hb := (contains_iff hb).trans (clip_eq_right_iff hb).symm

/-- Two boxes that overlap in part: their union is the same with a repetition and from the
other end, and there is no smaller box that contains both. -/
theorem overlapping_boxes_are_covered :
    (⟨0, 0, 2, 2⟩ : Rect ℚ).unionAll [⟨1, 1, 3, 2⟩, ⟨0, 0, 2, 2⟩]
        = (⟨1, 1, 3, 2⟩ : Rect ℚ).unionAll [⟨0, 0, 2, 2⟩]
      ∧ IsLeastCover ((⟨1, 1, 3, 2⟩ : Rect ℚ).unionAll [⟨0, 0, 2, 2⟩])
          [⟨1, 1, 3, 2⟩, ⟨0, 0, 2, 2⟩] := by
  have hboxes : ∀ t ∈ ([⟨1, 1, 3, 2⟩, ⟨0, 0, 2, 2⟩] : List (Rect ℚ)), t.IsBox := by decide +kernel
  constructor
  · refine (containment_orders_boxes.same _ _ _ _ ?_ ?_)
    · decide +kernel
    · intro t
      simp only [List.mem_cons, List.not_mem_nil, or_false]
      tauto
  · exact containment_orders_boxes.unionAll _ _ hboxes

end Rect

end Stagecraft
