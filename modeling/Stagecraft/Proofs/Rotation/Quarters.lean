/-
Quarter turns of vectors of doubles.

A quarter turn moves and negates the coordinates, and negating a double twice
gives it back, zeros and what is no number included. So four quarter turns are
none (`isPeriodicPt_turnLeft`), and turns that follow one another add up, as
numbers do up to multiples of four (`inQuarters_add`). No digit is lost on the way,
however long it is. What is left is that each double for a multiple of a
quarter turn lands in the window of that multiple once it is wrapped. Of these
doubles only the digits are known, so this is computed, angle by angle
(`rotateRadians_radians`).
-/
import Mathlib.Dynamics.PeriodicPts.Defs
import Stagecraft.Geometry.Vec2
import Stagecraft.Proofs.Doubles.Packing

namespace Stagecraft

-- ================================================================ angles

/-- An angle of up to four quarter turns, in one sense or the other. -/
structure QuarterAngle where
  quarters : Fin 5
  clockwise : Bool

namespace QuarterAngle

open Scalar Elementary

/-- The double for the angle. -/
def radians (a : QuarterAngle) : Float :=
  let size : Float := match a.quarters with
    | 0 => 0.0
    | 1 => quarterTurn
    | 2 => pi
    | 3 => 3.0 * quarterTurn
    | 4 => fullTurn
  if a.clockwise then -size else size

/-- How many quarter turns the angle is, counted counter-clockwise. -/
def count (a : QuarterAngle) : Int := if a.clockwise then -a.quarters else a.quarters

end QuarterAngle

-- ========================================================== quarter turns

namespace Vec2

/-- The vector after a quarter turn. -/
def turnLeft (v : Vec2 Float) : Vec2 Float := ⟨-v.y, v.x⟩

/-- The vector after a number of quarter turns, clockwise ones being negative. -/
def inQuarters (v : Vec2 Float) (n : Int) : Vec2 Float :=
  match n % 4 with
  | 0 => v
  | 1 => ⟨-v.y, v.x⟩
  | 2 => ⟨-v.x, -v.y⟩
  | _ => ⟨v.y, -v.x⟩

theorem isPeriodicPt_turnLeft (v : Vec2 Float) : Function.IsPeriodicPt turnLeft 4 v := by
  show (⟨- -v.x, - -v.y⟩ : Vec2 Float) = v
  rw [Double.neg_neg, Double.neg_neg]

/-- Turning back is turning on, up to four. -/
theorem inQuarters_eq (v : Vec2 Float) (n : Int) :
    v.inQuarters n = turnLeft^[(n % 4).toNat] v := by
  have hrest : n % 4 = 0 ∨ n % 4 = 1 ∨ n % 4 = 2 ∨ n % 4 = 3 := by omega
  unfold inQuarters
  rcases hrest with h | h | h | h
  · rw [h]
    rfl
  · rw [h]
    rfl
  · rw [h]
    rfl
  · rw [h]
    show (⟨v.y, -v.x⟩ : Vec2 Float) = ⟨- -v.y, -v.x⟩
    rw [Double.neg_neg]

/-- Turns follow one another as their numbers are added. -/
theorem inQuarters_add (v : Vec2 Float) (m n : Int) :
    v.inQuarters (m + n) = (v.inQuarters m).inQuarters n := by
  rw [inQuarters_eq, inQuarters_eq, inQuarters_eq, ← Function.iterate_add_apply,
    ← (isPeriodicPt_turnLeft v).iterate_mod_apply ((n % 4).toNat + _)]
  congr 1
  omega

/-- Each of the angles is carried out as the quarter turns that it stands for. -/
theorem rotateRadians_radians (v : Vec2 Float) (a : QuarterAngle) :
    v.rotateRadians a.radians = v.inQuarters a.count := by
  obtain ⟨quarters, clockwise⟩ := a
  cases clockwise <;> fin_cases quarters <;> rfl

/-- Rotations by quarters, exact as they are, come to the rotation by their sum. -/
theorem quarter_turns_add_up (v : Vec2 Float) (angles : List QuarterAngle) :
    (angles.map QuarterAngle.radians).foldl rotateRadians v
      = v.inQuarters (angles.map QuarterAngle.count).sum := by
  induction angles generalizing v with
  | nil => rfl
  | cons a angles ih =>
      rw [List.map_cons, List.map_cons, List.foldl_cons, List.sum_cons, inQuarters_add,
        rotateRadians_radians]
      exact ih _

end Vec2

end Stagecraft
