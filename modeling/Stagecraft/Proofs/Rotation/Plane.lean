/-
Rotations of the plane within space, in exact arithmetic.

A vector of the plane is turned by a matrix, and one of space by what is along
the axis and what is across it. About the third axis both do the same to the
first two coordinates, whatever way the angle is carried out
(`Vec2.raise_turn`), and it is carried out in the same way. The other two axes
are no different: renaming the coordinates in a cycle keeps lengths and both
products, so it takes the rotation about any axis to the one about the renamed
axis (`Vec3.cycle_rotateRadians`).
-/
import Mathlib.Analysis.Real.Pi.Bounds
import Stagecraft.Proofs.Rotation.Space
import Stagecraft.Geometry.Vec2

namespace Stagecraft

variable {K : Type} [Field K] [LinearOrder K] [FloorRing K]

open Scalar Elementary

-- ========================================================= the third axis

/-- The vector of the plane at a height above it. -/
def Vec2.raise (v : Vec2 K) (z : K) : Vec3 K := ⟨v.x, v.y, z⟩

theorem Vec3.lengthSquared_third : (⟨0, 0, 1⟩ : Vec3 K).lengthSquared = 1 := by
  unfold lengthSquared
  ring

/-- About the third axis, the height is along and the rest is a quarter turn across. -/
theorem Vec3.third_products (v : Vec3 K) :
    (⟨0, 0, 1⟩ : Vec3 K) * (⟨0, 0, 1⟩ : Vec3 K).dot v = ⟨0, 0, v.z⟩
      ∧ (⟨0, 0, 1⟩ : Vec3 K).cross v = ⟨-v.y, v.x, 0⟩ := by
  constructor
  · ext <;> simp only [mul_def, dot] <;> ring
  · ext <;> simp only [cross] <;> ring

theorem Vec2.raise_turn (v : Vec2 K) (z : K) (t : Turn K) :
    (v.raise z).turn ⟨0, 0, 1⟩ t = (v.turn t).raise z := by
  obtain ⟨halong, hacross⟩ := Vec3.third_products (v.raise z)
  unfold Vec3.turn
  rw [halong, hacross]
  cases t with
  | none => rfl
  | _ =>
      ext <;> simp only [raise, turn, Vec3.add_def, Vec3.sub_def, Vec3.mul_def, one_exact,
        two_exact] <;> ring

-- ============================================================== the cycle

namespace Vec3

/-- The vector with its coordinates renamed: what was second is first, what was third
is second, and what was first is third. -/
def cycle (v : Vec3 K) : Vec3 K := ⟨v.y, v.z, v.x⟩

variable (v w axis : Vec3 K)

theorem cycle_dot : v.cycle.dot w.cycle = v.dot w := by
  unfold dot cycle
  ring

theorem cycle_cross : v.cycle.cross w.cycle = (v.cross w).cycle := rfl

theorem cycle_turn (t : Turn K) : v.cycle.turn axis.cycle t = (v.turn axis t).cycle := by
  unfold turn
  rw [cycle_dot, cycle_cross]
  cases t <;> rfl

variable [Curves K]

theorem length_cycle : v.cycle.length = v.length := congrArg sqrt (cycle_dot v v)

/-- The rotation about a renamed axis is the renamed rotation. -/
theorem cycle_rotateRadians (r : K) :
    v.cycle.rotateRadians r axis.cycle = (v.rotateRadians r axis).map cycle := by
  unfold rotateRadians
  rw [length_cycle]
  split_ifs
  case pos => rfl
  case pos => exact congrArg Except.ok (cycle_turn v (axis / axis.length) (turnOf r))
  case neg => exact congrArg Except.ok (cycle_turn v axis (turnOf r))

theorem cycle_rotateAbout (d : K) :
    v.cycle.rotateAbout d axis.cycle = (v.rotateAbout d axis).cycle := by
  unfold rotateAbout rotate
  rw [cycle_rotateRadians]
  cases v.rotateRadians (rotationOfDegrees d) axis <;> rfl

end Vec3

-- ============================================================= the result

section Agreement

variable [Curves K]

variable (K) in
/-- What it means that the plane and space rotate alike. -/
structure RotateAlike : Prop where
  /-- An angle has one way to be carried out, and both take it. -/
  ways (hpi : 3 < (pi : K)) (r : K) : ∃ t : Turn K, (∀ s, CarriedOut r s ↔ s = t)
    ∧ (∀ v : Vec2 K, v.rotateRadians r = v.turn t)
    ∧ ∀ v : Vec3 K, v.rotateRadians r ⟨0, 0, 1⟩ = .ok (v.turn ⟨0, 0, 1⟩ t)
  radians (v : Vec2 K) (z r : K) :
    (v.raise z).rotateRadians r ⟨0, 0, 1⟩ = .ok ((v.rotateRadians r).raise z)
  degrees (v : Vec2 K) (z d : K) : (v.raise z).rotateZ d = (v.rotate d).raise z
  first_axis (v : Vec3 K) (d : K) : (v.rotateX d).cycle = v.cycle.rotateZ d
  second_axis (v : Vec3 K) (d : K) : (v.rotateY d).cycle = v.cycle.rotateX d

variable [IsStrictOrderedRing K]

/-- At any height, a vector of the plane makes the same turn in space. -/
theorem Vec2.raise_rotateRadians (hsqrt : sqrt (1 : K) = 1) (v : Vec2 K) (z r : K) :
    (v.raise z).rotateRadians r ⟨0, 0, 1⟩ = .ok ((v.rotateRadians r).raise z) := by
  rw [Vec3.rotateRadians_eq Vec3.lengthSquared_third hsqrt, raise_turn]
  rfl

/-- The plane rotates as space does about the third axis, and the other two axes are the third
one under other names. -/
theorem plane_and_space_rotate_alike (hsqrt : sqrt (1 : K) = 1) : RotateAlike K := by
  constructor
  case ways =>
      intro hpi r
      refine ⟨turnOf r, fun s => ?_, fun v => rfl, fun v => ?_⟩
      · rw [carriedOut_iff hpi, eq_comm]
      · exact Vec3.rotateRadians_eq Vec3.lengthSquared_third hsqrt v r
  case radians => exact Vec2.raise_rotateRadians hsqrt
  case degrees =>
      intro v z d
      unfold Vec3.rotateZ Vec3.rotateAbout Vec3.rotate
      rw [zero_exact, one_exact, Vec2.raise_rotateRadians hsqrt]
      rfl
  case first_axis => exact fun v d => (Vec3.cycle_rotateAbout v _ d).symm
  case second_axis => exact fun v d => (Vec3.cycle_rotateAbout v _ d).symm

end Agreement

/-- A quarter turn of both, with the functions of analysis. -/
theorem a_quarter_turn_at_height_three :
    sqrt (1 : ℝ) = 1 ∧ RotateAlike ℝ
      ∧ (⟨1, 2⟩ : Vec2 ℝ).rotateRadians (Real.pi / 2) = ⟨-2, 1⟩
      ∧ (⟨1, 2, 3⟩ : Vec3 ℝ).rotateRadians (Real.pi / 2) ⟨0, 0, 1⟩ = .ok ⟨-2, 1, 3⟩ := by
  have halike : RotateAlike ℝ := plane_and_space_rotate_alike Real.sqrt_one
  obtain ⟨t, hway, hplane, -⟩ := halike.ways Real.pi_gt_three (Real.pi / 2)
  have hnear : Near (Real.pi / 2) (quarterTurn : ℝ) := by
    have hquarter : (quarterTurn : ℝ) = Real.pi / 2 := by
      unfold quarterTurn
      rw [two_exact]
      rfl
    refine ⟨0, ?_⟩
    rw [hquarter, Int.cast_zero, zero_mul, add_zero, sub_self, abs_zero]
    exact angleTolerance_pos
  have hturn : .quarter = t := (hway _).1 (.quarter hnear)
  have hflat : (⟨1, 2⟩ : Vec2 ℝ).rotateRadians (Real.pi / 2) = ⟨-2, 1⟩ := by
    rw [hplane, ← hturn]
    rfl
  refine ⟨Real.sqrt_one, halike, hflat, ?_⟩
  have hraised := halike.radians ⟨1, 2⟩ 3 (Real.pi / 2)
  rw [hflat] at hraised
  exact hraised

end Stagecraft
