/-
Scalars without rounding.

The rules of the toolkit are written over any type of scalars, so what
they would do if no digit were ever lost is what they do over an ordered
field with a floor: over the rational numbers, where they can be run, and
over the real numbers. There every scalar is a finite number, a decimal
constant is the number that it says, and a delay is accepted exactly when
it is above zero.

Angles, lengths and elastic curves need functions that a field need not
have. What is proved over a field with such functions (`Curves`) does not
depend on which they are: it holds for those of analysis, and for any
others.
-/
import Mathlib.Algebra.Order.Floor.Ring
import Mathlib.Analysis.SpecialFunctions.Complex.Arg
import Mathlib.Analysis.SpecialFunctions.Pow.Real
import Mathlib.Analysis.SpecialFunctions.Trigonometric.Inverse
import Mathlib.Tactic.NormNum
import Mathlib.Tactic.Linarith
import Stagecraft.Proofs.Frame.QueueCall

namespace Stagecraft

variable {K : Type} [Field K] [LinearOrder K] [FloorRing K]

-- ========================================================= the instances

/-- An ordered field with a floor computes without rounding. -/
instance Scalar.exact : Scalar K where
  toAdd := inferInstance
  toSub := inferInstance
  toMul := inferInstance
  toDiv := inferInstance
  toNeg := inferInstance
  toLT := inferInstance
  toLE := inferInstance
  toBEq := inferInstance
  toNatCast := inferInstance
  toOfScientific := inferInstance
  decLt := inferInstance
  decLe := inferInstance
  floor x := ⌊x⌋

/-- Functions to compute angles, lengths and curves with. -/
class Curves (K : Type) where
  pi : K
  sqrt : K → K
  sin : K → K
  cos : K → K
  acos : K → K
  atan2 : K → K → K
  hypot : K → K → K
  pow : K → K → K

instance Elementary.exact [Curves K] : Elementary K where
  toScalar := Scalar.exact
  pi := Curves.pi
  sqrt := Curves.sqrt
  sin := Curves.sin
  cos := Curves.cos
  acos := Curves.acos
  atan2 := Curves.atan2
  hypot := Curves.hypot
  pow := Curves.pow

/-- The functions of analysis. -/
noncomputable instance Curves.real : Curves ℝ where
  pi := Real.pi
  sqrt := Real.sqrt
  sin := Real.sin
  cos := Real.cos
  acos := Real.arccos
  atan2 y x := Complex.arg ⟨x, y⟩
  hypot x y := Real.sqrt (x * x + y * y)
  pow x y := x ^ y

-- =========================================== numbers, halves and delays

namespace Scalar

/-- The decimal zero is zero. -/
theorem zero_exact : (0.0 : K) = 0 := by norm_num

/-- The decimal one is one. -/
theorem one_exact : (1.0 : K) = 1 := by norm_num

/-- The decimal two is two. -/
theorem two_exact : (2.0 : K) = 2 := by norm_num

theorem isNumber_exact (x : K) : isNumber x = true := beq_self_eq_true x

theorem isFinite_exact (x : K) : isFinite x = true := isNumber_exact (x - x)

theorem abs_exact [IsStrictOrderedRing K] (x : K) : abs x = |x| := by
  unfold abs
  rw [zero_exact]
  split_ifs with h
  · exact (abs_of_neg h).symm
  · exact (abs_of_nonneg (not_lt.1 h)).symm

theorem half_exact (x : K) : half x = ⌊x / 2⌋ := by
  unfold half
  rw [two_exact]
  rfl

theorem half_le (x : K) : half x ≤ x / 2 := by
  rw [half_exact]
  exact Int.floor_le _

theorem lt_half_add_one (x : K) : x / 2 < half x + 1 := by
  rw [half_exact]
  exact Int.lt_floor_add_one _

theorem half_nonneg [IsStrictOrderedRing K] {x : K} (h : 0 ≤ x) : 0 ≤ half x := by
  rw [half_exact]
  exact_mod_cast Int.floor_nonneg.2 (div_nonneg h zero_le_two)

end Scalar

/-- A delay is accepted when it is above zero. -/
theorem isDelay_exact (x : K) : isDelay x = true ↔ 0 < x := by
  unfold isDelay
  rw [Scalar.isNumber_exact, Scalar.isFinite_exact, Scalar.zero_exact]
  simp

end Stagecraft
