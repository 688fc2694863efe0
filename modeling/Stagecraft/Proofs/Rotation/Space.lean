/-
Rotations of space, in exact arithmetic.

A vector is turned about an axis of length one by what is along the axis, what
is across it, and the sine and cosine of an angle. Of the two numbers nothing
is asked but that they lie on the circle (`Angle`), so what holds of these
turns holds whatever the sine and cosine of an angle are computed with.

What is along the axis stays (`axis_dot_turn`) and what is across it is turned
(`cross_turn`). With these two, turning again is turning by the sum
(`turn_turn`), and two vectors that are turned keep their product
(`turn_dot_turn`) and so their lengths. The quarter turns are no exception:
they are the same formula at the sines and cosines that they have
(`turn_eq_general`), and so every angle makes such a turn (`exists_angle`).
-/
import Stagecraft.Proofs.Rotation.Turns
import Stagecraft.Geometry.Vec3

namespace Stagecraft

attribute [ext] Vec3

variable {K : Type} [Field K]

-- ================================================================ angles

/-- The sine and the cosine of an angle. -/
structure Angle (K : Type) [Field K] where
  sin : K
  cos : K
  onCircle : sin * sin + cos * cos = 1

namespace Angle

/-- The sum of two angles. -/
instance : Add (Angle K) where
  add α β :=
    { sin := α.sin * β.cos + α.cos * β.sin
      cos := α.cos * β.cos - α.sin * β.sin
      onCircle := by
        linear_combination (β.sin * β.sin + β.cos * β.cos) * α.onCircle + β.onCircle }

theorem sin_add (α β : Angle K) : (α + β).sin = α.sin * β.cos + α.cos * β.sin := rfl

theorem cos_add (α β : Angle K) : (α + β).cos = α.cos * β.cos - α.sin * β.sin := rfl

/-- The turn by the angle. -/
def turn (α : Angle K) : Scalar.Turn K := .general α.sin α.cos

end Angle

variable [LinearOrder K] [FloorRing K]

namespace Vec3

open Scalar Elementary

-- ========================================================= the two products

section Products

variable (a u v w : Vec3 K)

theorem dot_comm : v.dot w = w.dot v := by
  unfold dot
  ring

theorem dot_cross_self : v.dot (v.cross w) = 0 := by
  unfold dot cross
  ring

theorem dot_cross_comm : v.dot (u.cross w) = -w.dot (u.cross v) := by
  unfold dot cross
  ring

theorem cross_dot_cross :
    (a.cross v).dot (a.cross w) = a.lengthSquared * v.dot w - a.dot v * a.dot w := by
  unfold dot cross lengthSquared
  ring

theorem cross_self : v.cross v = ⟨0, 0, 0⟩ := by
  ext <;> exact sub_eq_zero_of_eq (mul_comm _ _)

end Products

-- ================================================================== turns

section Turns

variable (a u v w : Vec3 K) (α β : Angle K)

theorem turn_eq :
    v.turn a α.turn = v * α.cos + a.cross v * α.sin + a * a.dot v * (1 - α.cos) := by
  show v * α.cos + a.cross v * α.sin + a * a.dot v * (1.0 - α.cos) = _
  rw [one_exact]

theorem dot_turn :
    u.dot (v.turn a α.turn)
      = u.dot v * α.cos + u.dot (a.cross v) * α.sin + u.dot a * a.dot v * (1 - α.cos) := by
  rw [turn_eq]
  generalize a.cross v = across
  generalize a.dot v = along
  simp only [dot, add_def, mul_def]
  ring

variable {a} (haxis : a.lengthSquared = 1)

include haxis

/-- What is along the axis stays. -/
theorem axis_dot_turn : a.dot (v.turn a α.turn) = a.dot v := by
  have hself : a.dot a = 1 := haxis
  rw [dot_turn, dot_cross_self, hself]
  ring

/-- What is across the axis is turned. -/
theorem cross_turn :
    a.cross (v.turn a α.turn) = a.cross v * α.cos + (a * a.dot v - v) * α.sin := by
  have htwice : a.cross (a.cross v) = a * a.dot v - v := by
    have hlong : a.cross (a.cross v) = a * a.dot v - v * a.lengthSquared := by
      ext <;> simp only [cross, dot, lengthSquared, mul_def, sub_def] <;> ring
    have hone : v * (1 : K) = v := by ext <;> exact mul_one _
    rw [hlong, haxis, hone]
  rw [turn_eq, ← htwice]
  ext <;> simp only [cross, add_def, mul_def] <;> ring

/-- Turned by the same angle, two vectors keep their product. -/
theorem turn_dot_turn : (v.turn a α.turn).dot (w.turn a α.turn) = v.dot w := by
  have hw : (v.turn a α.turn).dot w = v.dot w * α.cos + w.dot (a.cross v) * α.sin
      + a.dot v * a.dot w * (1 - α.cos) := by
    rw [dot_comm, dot_turn, dot_comm w v, dot_comm w a]
    ring
  have hcross : (v.turn a α.turn).dot (a.cross w)
      = -w.dot (a.cross v) * α.cos + (v.dot w - a.dot v * a.dot w) * α.sin := by
    rw [dot_comm, dot_turn, cross_dot_cross, dot_comm (a.cross w) v, dot_comm (a.cross w) a,
      dot_cross_self, dot_cross_comm a v w, haxis, dot_comm w v]
    ring
  rw [dot_turn, hw, hcross, dot_comm _ a, axis_dot_turn v α haxis]
  linear_combination (v.dot w - a.dot v * a.dot w) * α.onCircle

/-- Turning twice turns by the sum. -/
theorem turn_turn : (v.turn a α.turn).turn a β.turn = v.turn a (α + β).turn := by
  rw [turn_eq a (v.turn a α.turn), cross_turn v α haxis, axis_dot_turn v α haxis, turn_eq, turn_eq,
    Angle.sin_add, Angle.cos_add]
  generalize a.cross v = across
  generalize a.dot v = along
  ext <;> simp only [add_def, sub_def, mul_def] <;> ring

theorem axis_turn : a.turn a α.turn = a := by
  have hself : a.dot a = 1 := haxis
  rw [turn_eq, cross_self, hself]
  ext <;> simp only [add_def, mul_def] <;> ring

end Turns

-- ========================================================== quarter turns

/-- The sine and cosine that a turn is made with, or could be. -/
def sinCos : Turn K → K × K
  | .none => (0, 1)
  | .quarter => (1, 0)
  | .opposite => (0, -1)
  | .threeQuarters => (-1, 0)
  | .general s c => (s, c)

/-- The quarter turns are the general formula at the sines and cosines that they have. -/
theorem turn_eq_general (v axis : Vec3 K) (t : Turn K) :
    v.turn axis t = v.turn axis (.general (sinCos t).1 (sinCos t).2) := by
  cases t with
  | general s c => rfl
  | _ =>
      ext <;> simp only [turn, sinCos, add_def, sub_def, mul_def, one_exact, two_exact] <;> ring

-- ============================================================= the result

variable [Curves K]

/-- About an axis of length one, a vector makes the turn of the angle. -/
theorem rotateRadians_eq [IsStrictOrderedRing K] {axis : Vec3 K} (haxis : axis.lengthSquared = 1)
    (hsqrt : sqrt (1 : K) = 1) (v : Vec3 K) (r : K) :
    v.rotateRadians r axis = .ok (v.turn axis (turnOf r)) := by
  have hpos := angleTolerance_pos (K := K)
  have hshort := two_mul_angleTolerance_lt_one (K := K)
  have hlength : axis.length = 1 := by
    unfold length
    rw [haxis, hsqrt]
  have hlong : ¬(1 : K) < angleTolerance := by linarith
  have hunit : ¬(angleTolerance : K) < Scalar.abs (1 - 1.0) := by
    rw [one_exact, sub_self, abs_exact, abs_zero]
    exact hpos.not_gt
  unfold rotateRadians
  rw [hlength, if_neg hlong]
  dsimp only
  rw [if_neg hunit]

/-- Every angle makes the turn of some sine and cosine. -/
theorem exists_angle (hcircle : ∀ x : K, sin x * sin x + cos x * cos x = 1) (r : K) :
    ∃ α : Angle K, ∀ v axis : Vec3 K, v.turn axis (turnOf r) = v.turn axis α.turn := by
  have honCircle : (sinCos (turnOf r)).1 * (sinCos (turnOf r)).1
      + (sinCos (turnOf r)).2 * (sinCos (turnOf r)).2 = 1 := by
    unfold turnOf
    dsimp only
    split_ifs
    case neg => exact hcircle _
    all_goals
      simp only [sinCos]
      ring
  exact ⟨⟨_, _, honCircle⟩, fun v axis => turn_eq_general v axis (turnOf r)⟩

/-- What makes turning about an axis a rotation. -/
structure RotatesAbout (axis : Vec3 K) : Prop where
  length (α : Angle K) (v : Vec3 K) : (v.turn axis α.turn).length = v.length
  axis_dot (α : Angle K) (v : Vec3 K) : axis.dot (v.turn axis α.turn) = axis.dot v
  dot (α : Angle K) (v w : Vec3 K) : (v.turn axis α.turn).dot (w.turn axis α.turn) = v.dot w
  again (α β : Angle K) (v : Vec3 K) :
    (v.turn axis α.turn).turn axis β.turn = v.turn axis (α + β).turn
  fixed (α : Angle K) : axis.turn axis α.turn = axis
  none (v : Vec3 K) : v.turn axis .none = v.turn axis (.general 0 1)
  quarter (v : Vec3 K) : v.turn axis .quarter = v.turn axis (.general 1 0)
  opposite (v : Vec3 K) : v.turn axis .opposite = v.turn axis (.general 0 (-1))
  threeQuarters (v : Vec3 K) : v.turn axis .threeQuarters = v.turn axis (.general (-1) 0)
  /-- If sines and cosines lie on the circle, an angle in radians makes one of these turns. -/
  radians (hsqrt : sqrt (1 : K) = 1) (hcircle : ∀ x : K, sin x * sin x + cos x * cos x = 1)
    (r : K) : ∃ α : Angle K, ∀ v : Vec3 K, v.rotateRadians r axis = .ok (v.turn axis α.turn)

/-- A turn about an axis of length one keeps lengths and products and the axis itself, and turns
after each other add up. -/
theorem turning_is_a_rotation [IsStrictOrderedRing K] {axis : Vec3 K}
    (haxis : axis.lengthSquared = 1) : RotatesAbout axis := by
  constructor
  case length =>
      intro α v
      exact congrArg sqrt (turn_dot_turn v v α haxis)
  case axis_dot => exact fun α v => axis_dot_turn v α haxis
  case dot => exact fun α v w => turn_dot_turn v w α haxis
  case again => exact fun α β v => turn_turn v α β haxis
  case fixed => exact fun α => axis_turn α haxis
  case none => exact fun v => turn_eq_general v axis .none
  case quarter => exact fun v => turn_eq_general v axis .quarter
  case opposite => exact fun v => turn_eq_general v axis .opposite
  case threeQuarters => exact fun v => turn_eq_general v axis .threeQuarters
  case radians =>
      intro hsqrt hcircle r
      obtain ⟨α, hα⟩ := exists_angle hcircle r
      refine ⟨α, fun v => ?_⟩
      rw [rotateRadians_eq haxis hsqrt, hα]

/-- With the sines and cosines of analysis, no angle about this axis changes a length. -/
theorem a_slanting_axis_keeps_lengths :
    (⟨3 / 5, 0, 4 / 5⟩ : Vec3 ℝ).lengthSquared = 1
      ∧ RotatesAbout (⟨3 / 5, 0, 4 / 5⟩ : Vec3 ℝ)
      ∧ ∀ (v : Vec3 ℝ) (r : ℝ), ∃ w : Vec3 ℝ,
        v.rotateRadians r ⟨3 / 5, 0, 4 / 5⟩ = .ok w ∧ w.length = v.length := by
  have haxis : (⟨3 / 5, 0, 4 / 5⟩ : Vec3 ℝ).lengthSquared = 1 := by
    norm_num [lengthSquared]
  have hrotates := turning_is_a_rotation haxis
  refine ⟨haxis, hrotates, fun v r => ?_⟩
  have hcircle (x : ℝ) : Real.sin x * Real.sin x + Real.cos x * Real.cos x = 1 := by
    rw [← sq, ← sq, Real.sin_sq_add_cos_sq]
  obtain ⟨α, hα⟩ := hrotates.radians Real.sqrt_one hcircle r
  exact ⟨_, hα v, hrotates.length α v⟩

end Vec3

end Stagecraft
