/-
How an angle is carried out, in exact arithmetic.

An angle is wrapped into one full turn before it is compared with the
multiples of a quarter turn, and it has two chances to be close to no turn at
all, at the beginning and at the end. What is meant is simpler: an angle
counts as such a multiple if, up to full turns, it is closer to it than the
tolerance (`Near`). Both say the same as long as the windows around the
multiples do not meet, and with a half turn of more than 3 they are far
apart. So there is one way to carry an angle out (`CarriedOut`), and
`turnOf` finds it.
-/
import Stagecraft.Proofs.Exact

namespace Stagecraft

namespace Scalar

open Elementary

variable {K : Type} [Field K] [LinearOrder K] [FloorRing K]

-- ============================================================== wrapping

section Wrapping

theorem floorMod_exact (a b : K) : floorMod a b = a - b * ⌊a / b⌋ := rfl

variable [IsStrictOrderedRing K]

theorem floorMod_mem {b : K} (hb : 0 < b) (a : K) : 0 ≤ floorMod a b ∧ floorMod a b < b := by
  rw [floorMod_exact, mul_comm]
  exact ⟨Int.sub_floor_div_mul_nonneg a hb, Int.sub_floor_div_mul_lt a hb⟩

/-- No other angle within one turn differs from the wrapped one by full turns. -/
theorem floorMod_add_mul {a b : K} (k : ℤ) (ha : 0 ≤ a) (hab : a < b) :
    floorMod (a + k * b) b = a := by
  have hb : 0 < b := ha.trans_lt hab
  have hfloor : ⌊(a + k * b) / b⌋ = k := by
    rw [add_div, mul_div_cancel_right₀ _ hb.ne', Int.floor_add_intCast,
      Int.floor_eq_zero_iff.2 ⟨div_nonneg ha hb.le, (div_lt_one hb).2 hab⟩, zero_add]
  rw [floorMod_exact, hfloor]
  ring

end Wrapping

-- =============================================================== windows

section Windows

variable [Curves K]

/-- Whether an angle is closer to another one than the tolerance, up to full turns. -/
def Near (r a : K) : Prop := ∃ k : ℤ, |r - (a + k * fullTurn)| < angleTolerance

theorem fullTurn_exact : (fullTurn : K) = 4 * quarterTurn := by
  unfold fullTurn quarterTurn
  norm_num
  ring

theorem pi_exact : (pi : K) = 2 * quarterTurn := by
  unfold quarterTurn
  norm_num
  ring

/-- Nearness is seen from the wrapped angle, too. -/
theorem near_iff_wrapped {r a : K} :
    Near r a ↔ ∃ k : ℤ, |floorMod r fullTurn - a + k * fullTurn| < angleTolerance := by
  have hshift (k : ℤ) : r - (a + k * fullTurn)
      = floorMod r fullTurn - a + ((⌊r / fullTurn⌋ - k : ℤ) : K) * fullTurn := by
    rw [floorMod_exact]
    push_cast
    ring
  constructor
  · rintro ⟨k, hk⟩
    rw [hshift k] at hk
    exact ⟨_, hk⟩
  · rintro ⟨k, hk⟩
    refine ⟨⌊r / fullTurn⌋ - k, ?_⟩
    rw [hshift, sub_sub_cancel]
    exact hk

variable [IsStrictOrderedRing K]

theorem angleTolerance_pos : 0 < (angleTolerance : K) := by
  unfold angleTolerance
  norm_num

theorem two_mul_angleTolerance_lt_one : 2 * (angleTolerance : K) < 1 := by
  unfold angleTolerance
  norm_num

/-- A distance that falls short of a turn by the tolerance is not made short by any full
turns. -/
theorem exists_turns_iff {x : K} (hlow : angleTolerance - fullTurn ≤ x)
    (hhigh : x ≤ fullTurn - angleTolerance) :
    (∃ k : ℤ, |x + k * fullTurn| < angleTolerance) ↔ |x| < angleTolerance := by
  have hfull : 0 ≤ (fullTurn : K) := by
    have := angleTolerance_pos (K := K)
    linarith
  constructor
  · rintro ⟨k, hk⟩
    obtain ⟨hfrom, hto⟩ := abs_lt.1 hk
    have hzero : k = 0 := by
      by_contra hne
      rcases lt_or_gt_of_ne hne with hneg | hpos
      · have hback : (k : K) ≤ -1 := by exact_mod_cast Int.le_sub_one_of_lt hneg
        have := mul_le_mul_of_nonneg_right hback hfull
        linarith
      · have hforth : (1 : K) ≤ k := by exact_mod_cast hpos
        have := mul_le_mul_of_nonneg_right hforth hfull
        linarith
    rw [hzero, Int.cast_zero, zero_mul, add_zero] at hk
    exact hk
  · intro hx
    refine ⟨0, ?_⟩
    rw [Int.cast_zero, zero_mul, add_zero]
    exact hx

variable {r a : K}

/-- In the middle of the turn there is one window. -/
theorem near_iff (hfull : 0 < (fullTurn : K)) (hlow : angleTolerance ≤ a)
    (hhigh : a ≤ fullTurn - angleTolerance) :
    Near r a ↔ |floorMod r fullTurn - a| < angleTolerance := by
  obtain ⟨hfrom, hto⟩ := floorMod_mem hfull r
  rw [near_iff_wrapped]
  exact exists_turns_iff (by linarith) (by linarith)

/-- At both ends of the turn there is half a window. -/
theorem near_zero_iff (hfull : angleTolerance ≤ (fullTurn : K)) :
    Near r 0
      ↔ floorMod r fullTurn < angleTolerance ∨ fullTurn - floorMod r fullTurn < angleTolerance := by
  have htolerance := angleTolerance_pos (K := K)
  obtain ⟨hfrom, hto⟩ := floorMod_mem (htolerance.trans_le hfull) r
  rw [near_iff_wrapped, sub_zero]
  rcases le_or_gt (floorMod r fullTurn) (fullTurn - angleTolerance) with hin | hend
  · rw [exists_turns_iff (by linarith) hin, abs_of_nonneg hfrom, or_iff_left (by linarith)]
  · refine iff_of_true ⟨-1, ?_⟩ (.inr (by linarith))
    rw [Int.cast_neg, Int.cast_one, neg_one_mul, abs_lt]
    constructor
    · linarith
    · linarith

/-- Windows that are a unit apart in both directions do not meet. -/
theorem Near.not_near {b : K} (h : Near r b) (hforth : a + 1 ≤ b) (hback : b + 1 ≤ a + fullTurn) :
    ¬Near r a := by
  rintro ⟨k, hk⟩
  obtain ⟨l, hl⟩ := h
  have hshort := two_mul_angleTolerance_lt_one (K := K)
  obtain ⟨hkfrom, hkto⟩ := abs_lt.1 hk
  obtain ⟨hlfrom, hlto⟩ := abs_lt.1 hl
  have hfull : 0 ≤ (fullTurn : K) := by linarith
  rcases le_or_gt k l with hle | hlt
  · have hcast : (k : K) ≤ l := by exact_mod_cast hle
    have := mul_le_mul_of_nonneg_right hcast hfull
    linarith
  · have hcast : (l : K) + 1 ≤ k := by exact_mod_cast hlt
    have := mul_le_mul_of_nonneg_right hcast hfull
    linarith

/-- The turn that an angle makes, window by window. -/
theorem turnOf_eq (hpi : 3 < (pi : K)) (r : K) [Decidable (Near r 0)]
    [Decidable (Near r quarterTurn)] [Decidable (Near r pi)]
    [Decidable (Near r (3 * quarterTurn))] :
    turnOf r = if Near r 0 then .none else if Near r quarterTurn then .quarter
      else if Near r pi then .opposite else if Near r (3 * quarterTurn) then .threeQuarters
      else .general (sin (floorMod r fullTurn)) (cos (floorMod r fullTurn)) := by
  have hpos := angleTolerance_pos (K := K)
  have hshort := two_mul_angleTolerance_lt_one (K := K)
  have hthree : (3.0 : K) = 3 := by norm_num
  have hfull := fullTurn_exact (K := K)
  have hhalf := pi_exact (K := K)
  have hzero := near_zero_iff (r := r) (by linarith)
  have hfirst := near_iff (r := r) (a := quarterTurn) (by linarith) (by linarith) (by linarith)
  have hsecond := near_iff (r := r) (a := pi) (by linarith) (by linarith) (by linarith)
  have hthird := near_iff (r := r) (a := 3 * quarterTurn) (by linarith) (by linarith) (by linarith)
  unfold turnOf
  simp only [abs_exact, hthree, hzero, hfirst, hsecond, hthird]

end Windows

-- =============================================================== the ways

section Ways

variable [Curves K]

/-- The ways to carry an angle out. One that is close to a multiple of a quarter turn is
taken for it, and any other is wrapped. -/
inductive CarriedOut (r : K) : Turn K → Prop where
  | none (h : Near r 0) : CarriedOut r .none
  | quarter (h : Near r quarterTurn) : CarriedOut r .quarter
  | opposite (h : Near r pi) : CarriedOut r .opposite
  | threeQuarters (h : Near r (3 * quarterTurn)) : CarriedOut r .threeQuarters
  | general (angle : K) (k : ℤ) (hangle : r = angle + k * fullTurn)
      (hmem : 0 ≤ angle ∧ angle < fullTurn) (hnone : ¬Near r 0) (hquarter : ¬Near r quarterTurn)
      (hopposite : ¬Near r pi) (hthree : ¬Near r (3 * quarterTurn)) :
      CarriedOut r (.general (sin angle) (cos angle))

variable [IsStrictOrderedRing K] {r : K} {t : Turn K}

theorem carriedOut_turnOf (hpi : 3 < (pi : K)) (r : K) : CarriedOut r (turnOf r) := by
  classical
  rw [turnOf_eq hpi]
  split_ifs with hnone hquarter hopposite hthree
  case pos => exact .none hnone
  case pos => exact .quarter hquarter
  case pos => exact .opposite hopposite
  case pos => exact .threeQuarters hthree
  case neg =>
    have hfull : 0 < (fullTurn : K) := by
      have hhalf := pi_exact (K := K)
      rw [fullTurn_exact]
      linarith
    refine .general _ ⌊r / fullTurn⌋ ?_ (floorMod_mem hfull r) hnone hquarter hopposite hthree
    rw [floorMod_exact]
    ring

theorem CarriedOut.turnOf_eq (hpi : 3 < (pi : K)) (h : CarriedOut r t) : turnOf r = t := by
  classical
  have hfull := fullTurn_exact (K := K)
  have hhalf := pi_exact (K := K)
  rw [Scalar.turnOf_eq hpi]
  cases h with
  | none h => rw [if_pos h]
  | quarter h =>
      have hnone : ¬Near r 0 := h.not_near (by linarith) (by linarith)
      rw [if_neg hnone, if_pos h]
  | opposite h =>
      have hnone : ¬Near r 0 := h.not_near (by linarith) (by linarith)
      have hquarter : ¬Near r quarterTurn := h.not_near (by linarith) (by linarith)
      rw [if_neg hnone, if_neg hquarter, if_pos h]
  | threeQuarters h =>
      have hnone : ¬Near r 0 := h.not_near (by linarith) (by linarith)
      have hquarter : ¬Near r quarterTurn := h.not_near (by linarith) (by linarith)
      have hopposite : ¬Near r pi := h.not_near (by linarith) (by linarith)
      rw [if_neg hnone, if_neg hquarter, if_neg hopposite, if_pos h]
  | general angle k hangle hmem hnone hquarter hopposite hthree =>
      rw [if_neg hnone, if_neg hquarter, if_neg hopposite, if_neg hthree, hangle,
        floorMod_add_mul k hmem.1 hmem.2]

/-- An angle is carried out in one way. -/
theorem carriedOut_iff (hpi : 3 < (pi : K)) : CarriedOut r t ↔ turnOf r = t := by
  constructor
  · exact CarriedOut.turnOf_eq hpi
  · intro heq
    exact heq ▸ carriedOut_turnOf hpi r

end Ways

end Scalar

end Stagecraft
