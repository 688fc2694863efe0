/-
Reflections, in exact arithmetic.

A vector is reflected off a normal by bringing the normal to length one and
taking twice the part along it away. Over the real numbers nothing of the way
over the length is left: the part along a normal is a share of the normal
itself (`Vec3.mirror`, `Vec3.reflect_eq`), so neither the length of the normal
nor the side it points to matters. That a reflection keeps the product of two
vectors, and that a second one undoes it, both come from what it does to the
product with any third vector (`Vec3.mirror_dot`).

The plane has its own reflection. It is the one of space at height zero
(`Vec2.raise_reflect`), and whatever holds of a reflection there holds of it
(`Vec2.mirrors`).
-/
import Stagecraft.Proofs.Rotation.Plane
import Stagecraft.Proofs.InPlace

namespace Stagecraft

open Scalar

-- ========================================================== mirror images

namespace Vec3

section Mirror

variable {K : Type} [Field K] [LinearOrder K] [FloorRing K]

/-- The part of a vector along a normal. -/
def along (v n : Vec3 K) : Vec3 K := n * (v.dot n / n.lengthSquared)

/-- The mirror image of a vector in the plane that a normal stands on. -/
def mirror (v n : Vec3 K) : Vec3 K := v - v.along n - v.along n

variable {n : Vec3 K} (v w : Vec3 K)

theorem lengthSquared_mul (k : K) : (n * k).lengthSquared = n.lengthSquared * (k * k) := by
  simp only [lengthSquared, mul_def]
  ring

theorem dot_self : n.dot n = n.lengthSquared := rfl

theorem mirror_dot : (v.mirror n).dot w = v.dot w - 2 * (v.dot n / n.lengthSquared) * n.dot w := by
  unfold mirror along
  generalize v.dot n / n.lengthSquared = share
  simp only [dot, sub_def, mul_def]
  ring

/-- A vector that lies in the plane is its own image. -/
theorem mirror_of_dot_eq_zero {v : Vec3 K} (h : v.dot n = 0) : v.mirror n = v := by
  unfold mirror along
  rw [h, zero_div]
  ext <;> simp only [sub_def, mul_def] <;> ring

variable (hn : n.lengthSquared ≠ 0)

include hn

theorem mirror_dot_normal : (v.mirror n).dot n = -v.dot n := by
  rw [mirror_dot, dot_self, mul_assoc, div_mul_cancel₀ _ hn]
  ring

theorem mirror_mirror : (v.mirror n).mirror n = v := by
  have hback : (v.mirror n).along n = n * (-v.dot n / n.lengthSquared) := by
    rw [← mirror_dot_normal v hn]
    rfl
  have hagain : (v.mirror n).mirror n
      = v - v.along n - v.along n - (v.mirror n).along n - (v.mirror n).along n := rfl
  rw [hagain, hback]
  unfold along
  ext <;> simp only [sub_def, mul_def] <;> ring

theorem mirror_dot_mirror : (v.mirror n).dot (w.mirror n) = v.dot w := by
  calc (v.mirror n).dot (w.mirror n)
      = v.dot (w.mirror n) - 2 * (v.dot n / n.lengthSquared) * n.dot (w.mirror n) :=
        mirror_dot v _
    _ = (w.mirror n).dot v - 2 * (v.dot n / n.lengthSquared) * (w.mirror n).dot n := by
      rw [dot_comm v, dot_comm n]
    _ = w.dot v - 2 * (w.dot n / n.lengthSquared) * n.dot v
          + 2 * (v.dot n / n.lengthSquared) * w.dot n := by
      rw [mirror_dot, mirror_dot_normal w hn]
      ring
    _ = v.dot w := by
      rw [dot_comm n v, dot_comm w v]
      ring

/-- The normal itself is turned over. -/
theorem mirror_self : n.mirror n = -n := by
  unfold mirror along
  rw [dot_self, div_self hn]
  ext <;> simp only [sub_def, mul_def, neg_def] <;> ring

/-- Neither the length of the normal nor the side it points to matters. -/
theorem mirror_scaled {k : K} (hk : k ≠ 0) : v.mirror (n * k) = v.mirror n := by
  have hdot : v.dot (n * k) = v.dot n * k := by
    simp only [dot, mul_def]
    ring
  have halong : v.along (n * k) = v.along n := by
    unfold along
    rw [hdot, lengthSquared_mul]
    ext <;> simp only [mul_def] <;> field_simp
  unfold mirror
  rw [halong]

end Mirror

-- ============================================================ reflections

variable (v : Vec3 ℝ) {n : Vec3 ℝ}

theorem length_mul_length : n.length * n.length = n.lengthSquared := by
  have hx := mul_self_nonneg n.x
  have hy := mul_self_nonneg n.y
  have hz := mul_self_nonneg n.z
  exact Real.mul_self_sqrt (add_nonneg (add_nonneg hx hy) hz)

theorem length_ne_zero : n.length ≠ 0 ↔ n.lengthSquared ≠ 0 := by
  rw [← length_mul_length, ne_eq, ne_eq, mul_self_eq_zero]

/-- Reflecting off a normal that has a length gives the mirror image. -/
theorem reflect_eq (hn : n.length ≠ 0) : v.reflect n = .ok (v.mirror n) := by
  have hlong : ¬n.length ≤ 0.0 := by
    rw [zero_exact, not_le]
    exact lt_of_le_of_ne (Real.sqrt_nonneg _) hn.symm
  have hunit : v - n / n.length * (2.0 * v.dot (n / n.length)) = v.mirror n := by
    unfold mirror along
    rw [← length_mul_length, two_exact]
    generalize n.length = l at hn
    ext <;> simp only [dot, sub_def, mul_def, div_def] <;> field_simp <;> ring
  unfold reflect normalize
  rw [if_neg hlong]
  exact congrArg Except.ok hunit

/-- A normal without length has no plane. -/
theorem reflecting_of_length_eq_zero (hn : n.length = 0) :
    (reflecting n).run v = .error (.zeroLength "reflect off") v := by
  have hshort : n.length ≤ 0.0 := by rw [hn, zero_exact]
  unfold reflecting normalize
  rw [if_pos hshort]
  rfl

end Vec3

namespace Vec2

theorem raise_injective {v w : Vec2 ℝ} (h : v.raise 0 = w.raise 0) : v = w := by
  cases v
  cases w
  cases h
  rfl

theorem raise_dot (v w : Vec2 ℝ) : (v.raise 0).dot (w.raise 0) = v.dot w := by
  unfold raise Vec3.dot dot
  ring

theorem raise_length (v : Vec2 ℝ) : (v.raise 0).length = v.length :=
  congrArg Real.sqrt (raise_dot v v)

theorem raise_neg (v : Vec2 ℝ) : (-v).raise 0 = -v.raise 0 := by
  ext
  case x => rfl
  case y => rfl
  case z => exact neg_zero.symm

theorem raise_mul (v : Vec2 ℝ) (k : ℝ) : (v * k).raise 0 = v.raise 0 * k := by
  ext <;> simp only [raise, Vec3.mul_def, mul_def, zero_mul]

theorem map_raise_injective :
    Function.Injective (Except.map (·.raise 0) : Except (Fault ℝ) (Vec2 ℝ) → _) := by
  rintro (f | v) (f' | w) h
  case error.error => exact congrArg Except.error (Except.error.inj h)
  case ok.ok => exact congrArg Except.ok (raise_injective (Except.ok.inj h))
  all_goals cases h

/-- The reflection of the plane is the one of space at height zero. -/
theorem raise_reflect (v n : Vec2 ℝ) :
    (v.raise 0).reflect (n.raise 0) = (v.reflect n).map (·.raise 0) := by
  unfold Vec3.reflect reflect Vec3.normalize normalize
  rw [raise_length]
  split_ifs with hlong
  · rfl
  · refine congrArg Except.ok ?_
    have hunit : n.raise 0 / n.length = (n / n.length).raise 0 := by
      ext <;> simp only [raise, Vec3.div_def, div_def, zero_div]
    dsimp only
    rw [hunit, raise_dot]
    generalize (2.0 : ℝ) * v.dot (n / n.length) = twice
    ext <;> simp only [raise, Vec3.sub_def, Vec3.mul_def] <;> ring

theorem reflecting_of_length_eq_zero {n : Vec2 ℝ} (v : Vec2 ℝ) (hn : n.length = 0) :
    (reflecting n).run v = .error (.zeroLength "reflect off") v := by
  have hshort : n.length ≤ 0.0 := by rw [hn, zero_exact]
  unfold reflecting normalize
  rw [if_pos hshort]
  rfl

end Vec2

-- =============================================================== the laws

/-- What it means that reflecting off a normal makes mirror images. -/
structure Mirrors {V : Type} [Neg V] [HMul V ℝ V] (dot : V → V → ℝ) (length : V → ℝ)
    (reflect : V → V → Except (Fault ℝ) V) (n : V) : Prop where
  /-- A second reflection undoes the first. -/
  again (v : V) : ∃ u, reflect v n = .ok u ∧ reflect u n = .ok v
  length_kept {v u : V} (h : reflect v n = .ok u) : length u = length v
  dot_kept {v v' w w' : V} (hv : reflect v n = .ok v') (hw : reflect w n = .ok w') :
    dot v' w' = dot v w
  /-- What is orthogonal to the normal stays. -/
  across {v : V} (h : dot v n = 0) : reflect v n = .ok v
  /-- The normal is turned over. -/
  normal : reflect n n = .ok (-n)
  /-- A normal that is longer or shorter, or points to the other side, is as good. -/
  scaled {k : ℝ} (hk : k ≠ 0) (v : V) : reflect v (n * k) = reflect v n

theorem Vec3.mirrors {n : Vec3 ℝ} (hn : n.length ≠ 0) :
    Mirrors Vec3.dot Vec3.length Vec3.reflect n := by
  have hlong : n.lengthSquared ≠ 0 := length_ne_zero.1 hn
  have hdot {v v' w w' : Vec3 ℝ} (hv : v.reflect n = .ok v') (hw : w.reflect n = .ok w') :
      v'.dot w' = v.dot w := by
    rw [reflect_eq _ hn, Except.ok.injEq] at hv hw
    rw [← hv, ← hw]
    exact mirror_dot_mirror v w hlong
  constructor
  case again =>
      intro v
      refine ⟨v.mirror n, reflect_eq v hn, ?_⟩
      rw [reflect_eq _ hn, mirror_mirror v hlong]
  case length_kept =>
      intro v u h
      exact congrArg Real.sqrt (hdot h h)
  case dot_kept => exact hdot
  case across =>
      intro v h
      rw [reflect_eq v hn, mirror_of_dot_eq_zero h]
  case normal => rw [reflect_eq n hn, mirror_self hlong]
  case scaled =>
      intro k hk v
      have hscaled : (n * k).length ≠ 0 := by
        rw [length_ne_zero, lengthSquared_mul]
        exact mul_ne_zero hlong (mul_ne_zero hk hk)
      rw [reflect_eq v hscaled, reflect_eq v hn, mirror_scaled v hlong hk]

/-- What holds of the reflections of space holds of those of the plane. -/
theorem Vec2.mirrors {n : Vec2 ℝ} (hn : n.length ≠ 0) :
    Mirrors Vec2.dot Vec2.length Vec2.reflect n := by
  have hspace : Mirrors Vec3.dot Vec3.length Vec3.reflect (n.raise 0) :=
    Vec3.mirrors (by rwa [raise_length])
  have hraise {v u : Vec2 ℝ} (h : v.reflect n = .ok u) :
      (v.raise 0).reflect (n.raise 0) = .ok (u.raise 0) := by
    rw [raise_reflect, h]
    rfl
  have hlower {v u : Vec2 ℝ} (h : (v.raise 0).reflect (n.raise 0) = .ok (u.raise 0)) :
      v.reflect n = .ok u := by
    refine map_raise_injective ?_
    rw [← raise_reflect, h]
    rfl
  constructor
  case again =>
      intro v
      obtain ⟨u, hu, hback⟩ := hspace.again (v.raise 0)
      rw [raise_reflect] at hu
      -- what is defined in space is defined in the plane, and comes from there
      cases hv : v.reflect n with
      | error f =>
          rw [hv] at hu
          cases hu
      | ok u' =>
          rw [hv] at hu
          refine ⟨u', rfl, hlower ?_⟩
          rwa [← Except.ok.inj hu] at hback
  case length_kept =>
      intro v u h
      rw [← raise_length, ← raise_length]
      exact hspace.length_kept (hraise h)
  case dot_kept =>
      intro v v' w w' hv hw
      rw [← raise_dot, ← raise_dot]
      exact hspace.dot_kept (hraise hv) (hraise hw)
  case across =>
      intro v h
      exact hlower (hspace.across (by rwa [raise_dot]))
  case normal =>
      refine hlower ?_
      rw [raise_neg]
      exact hspace.normal
  case scaled =>
      intro k hk v
      refine map_raise_injective ?_
      rw [← raise_reflect, ← raise_reflect, raise_mul]
      exact hspace.scaled hk _

-- ============================================================= the result

/-- What it means that vectors are reflected off normals of any length, and changed in
place where they can be. -/
structure ReflectedInPlace {V : Type} [Neg V] [HMul V ℝ V] (dot : V → V → ℝ) (length : V → ℝ)
    (reflect : V → V → Except (Fault ℝ) V) (reflecting : V → EStateM (Fault ℝ) V Unit) :
    Prop where
  mirrors (n : V) (hn : length n ≠ 0) : Mirrors dot length reflect n
  in_place {v n u : V} (h : reflect v n = .ok u) : (reflecting n).run v = .ok () u
  refused (v n : V) (hn : length n = 0) :
    (reflecting n).run v = .error (.zeroLength "reflect off") v

/-- **Reflections off normals of any length are mirror images**, in the plane and in space. -/
theorem reflections_are_mirror_images :
    ReflectedInPlace Vec2.dot Vec2.length Vec2.reflect Vec2.reflecting
      ∧ ReflectedInPlace Vec3.dot Vec3.length Vec3.reflect Vec3.reflecting := by
  constructor
  · constructor
    case mirrors => exact fun n hn => Vec2.mirrors hn
    case in_place =>
        intro v n u h
        rw [Vec2.reflecting_eq, run_inPlace, h]
    case refused => exact fun v n hn => Vec2.reflecting_of_length_eq_zero v hn
  · constructor
    case mirrors => exact fun n hn => Vec3.mirrors hn
    case in_place =>
        intro v n u h
        rw [Vec3.reflecting_eq, run_inPlace, h]
    case refused => exact fun v n hn => Vec3.reflecting_of_length_eq_zero v hn

/-- Two normals that stand aslant and are no unit vectors, and one without length. -/
theorem mirrors_aslant :
    (⟨1, 2⟩ : Vec2 ℝ).length ≠ 0 ∧ Mirrors Vec2.dot Vec2.length Vec2.reflect ⟨1, 2⟩
      ∧ (⟨2, -1, 2⟩ : Vec3 ℝ).length ≠ 0
      ∧ Mirrors Vec3.dot Vec3.length Vec3.reflect ⟨2, -1, 2⟩
      ∧ (⟨0, 0, 0⟩ : Vec3 ℝ).length = 0
      ∧ (Vec3.reflecting ⟨0, 0, 0⟩).run ⟨3, 4, 5⟩
          = .error (.zeroLength "reflect off") (⟨3, 4, 5⟩ : Vec3 ℝ) := by
  have hplane : (⟨1, 2⟩ : Vec2 ℝ).length ≠ 0 := by
    rw [← Vec2.raise_length, Vec3.length_ne_zero]
    norm_num [Vec2.raise, Vec3.lengthSquared]
  have hspace : (⟨2, -1, 2⟩ : Vec3 ℝ).length ≠ 0 := by
    rw [Vec3.length_ne_zero]
    norm_num [Vec3.lengthSquared]
  have hnone : (⟨0, 0, 0⟩ : Vec3 ℝ).length = 0 := by
    refine not_ne_iff.1 (mt Vec3.length_ne_zero.1 (not_ne_iff.2 ?_))
    norm_num [Vec3.lengthSquared]
  exact ⟨hplane, reflections_are_mirror_images.1.mirrors _ hplane, hspace,
    reflections_are_mirror_images.2.mirrors _ hspace, hnone,
    reflections_are_mirror_images.2.refused _ _ hnone⟩

end Stagecraft
