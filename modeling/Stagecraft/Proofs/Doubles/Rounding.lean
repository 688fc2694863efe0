/-
How sums of doubles are rounded.

The exact sum of two finite doubles is a whole significand with an
exponent that is not below the least one. Rounding brings it to a form
that fits. No bit is lost but by a shift that leaves 53 of them, so a
sum other than zero never becomes zero, and a double that is not above
the exact sum is not above the rounded one (`round_finite`). That is all
that is needed to see that adding what is not negative does not make a
double smaller; how near the rounded sum is to the exact one does not
matter here.
-/
import Stagecraft.Proofs.Doubles.Packing

namespace Stagecraft.Double

open Float.Model UnpackedFloat

-- ================================================================= shifts

theorem mantissa_shiftRight (em : ExtendedMantissa) (k : Nat) :
    (em >>> k).mantissa = em.mantissa / 2 ^ k := by
  induction k with
  | zero => exact (Nat.div_one _).symm
  | succ k ih =>
      show (em >>> k).mantissa / 2 = _
      rw [ih, Nat.div_div_eq_div_mul, Nat.pow_succ]

/-- Rounding adds one at most. -/
theorem roundedMantissa_mem (em : ExtendedMantissa) :
    em.mantissa ≤ em.roundedMantissa ∧ em.roundedMantissa ≤ em.mantissa + 1 := by
  obtain ⟨m, round, sticky⟩ := em
  cases round with
  | false => cases sticky <;> exact ⟨Nat.le_refl _, Nat.le_succ _⟩
  | true =>
      cases sticky with
      | false =>
          show m ≤ m + m % 2 ∧ m + m % 2 ≤ m + 1
          omega
      | true => exact ⟨Nat.le_succ _, Nat.le_refl _⟩

/-- The exponent that a significand is brought to. -/
def target (m : Nat) (e : Int) : Int := max (m.log2 + e - 52) (-1074)

theorem targetExponent_eq (m : Nat) (e : Int) :
    Format.binary64.targetExponent (totalExponent m e) = target m e := by
  have hleast : Format.binary64.minExponent = -1074 := rfl
  have hbits : Format.binary64.mantissaBits = 53 := rfl
  unfold Format.targetExponent totalExponent target
  rw [hleast, hbits]
  omega

theorem shiftToTargetExponent_eq (m : Nat) (e : Int) :
    shiftToTargetExponent .binary64 m e .exact
      = (ExtendedMantissa.mk m false false >>> (target m e - e).toNat,
          e + (target m e - e).toNat) := by
  unfold shiftToTargetExponent shiftToExponent
  rw [targetExponent_eq]
  rfl

/-- A significand that fits is not shifted. -/
theorem target_le_of_short {m : Nat} {e : Int} (hshort : m < 2 ^ 53) (hleast : -1074 ≤ e) :
    target m e ≤ e := by
  have hlog : m.log2 ≤ 52 := by
    by_cases hm : m = 0
    · rw [hm]
      decide
    · have := (Nat.log2_lt hm).2 hshort
      omega
  unfold target
  omega

/-- The form in which rounding leaves a significand of 53 bits, or of one bit more
when the last bit was carried all the way. -/
theorem roundWithAccuracy_eq (s : Sign) {m : Nat} {e : Int} (hleast : -1074 ≤ e) :
    ∃ r, m / 2 ^ (target m e - e).toNat ≤ r ∧ r ≤ m / 2 ^ (target m e - e).toNat + 1
      ∧ ((target m e - e).toNat = 0 → r = m)
      ∧ (∀ hr : 0 < r, r < 2 ^ 53 →
        roundWithAccuracy .binary64 s m e .exact = .finite s r (e + (target m e - e).toNat) hr)
      ∧ (r = 2 ^ 53 → roundWithAccuracy .binary64 s m e .exact
        = .finite s (2 ^ 52) (e + (target m e - e).toNat + 1) (by decide)) := by
  generalize hk : (target m e - e).toNat = k
  refine ⟨(ExtendedMantissa.mk m false false >>> k).roundedMantissa, ?_, ?_, ?_, ?_, ?_⟩
  · rw [← mantissa_shiftRight ⟨m, false, false⟩ k]
    exact (roundedMantissa_mem _).1
  · rw [← mantissa_shiftRight ⟨m, false, false⟩ k]
    exact (roundedMantissa_mem _).2
  · rintro rfl
    rfl
  · intro hr hshort
    unfold roundWithAccuracy
    rw [shiftToTargetExponent_eq, hk]
    dsimp only
    generalize (ExtendedMantissa.mk m false false >>> k).roundedMantissa = r at hr hshort
    have hstays : (target r (e + k) - (e + k)).toNat = 0 := by
      have := target_le_of_short hshort (e := e + k) (by omega)
      omega
    rw [shiftToTargetExponent_eq, hstays]
    show (if h : r = 0 then _ else _) = _
    rw [dif_neg (by omega)]
    exact finite_congr rfl (by omega)
  · intro hr
    unfold roundWithAccuracy
    rw [shiftToTargetExponent_eq, hk]
    dsimp only
    rw [hr, shiftToTargetExponent_eq]
    have hone : (target (2 ^ 53) (e + k) - (e + k)).toNat = 1 := by
      unfold target
      rw [Nat.log2_two_pow]
      omega
    rw [hone]
    exact finite_congr rfl rfl

-- =============================================================== rounding

/-- What fits and is not above a significand has no larger exponent than the one
that this is brought to. -/
theorem Fitting.le_target {n m : Nat} {f e : Int} (h : Fitting n f) (hef : e ≤ f)
    (hle : n * 2 ^ (f - e).toNat ≤ m) : f ≤ target m e := by
  unfold target
  rcases h.full with hfull | hleast
  · have hpow : 2 ^ (52 + (f - e).toNat) ≤ m := by
      refine Nat.le_trans ?_ hle
      rw [Nat.pow_add]
      exact Nat.mul_le_mul_right _ hfull
    have hpos : m ≠ 0 := by
      have := Nat.two_pow_pos (52 + (f - e).toNat)
      omega
    have hlog := (Nat.le_log2 hpos).2 hpow
    omega
  · omega

/-- Rounding first makes a short significand longer. -/
theorem round_eq (s : Sign) (m : Nat) (e : Int) :
    UnpackedFloat.round .binary64 s m e
      = roundWithAccuracy .binary64 s (m * 2 ^ (e - target m e).toNat)
          (e - (e - target m e).toNat) .exact := by
  unfold UnpackedFloat.round decreaseExponent
  rw [targetExponent_eq]
  dsimp only
  rw [Nat.shiftLeft_eq]

/-- A significand that is short enough is only shifted to the left, and fits then. -/
private theorem round_short (s : Sign) {M : Nat} {e : Int} (hM : 0 < M) (hleast : -1074 ≤ e)
    (hshort : target M e ≤ e) :
    ∃ m, ∃ hm : 0 < m, UnpackedFloat.round .binary64 s M e = .finite s m (target M e) hm
      ∧ Fitting m (target M e) ∧ m = M * 2 ^ (e - target M e).toNat := by
  generalize hT : target M e = T at hshort
  generalize hk : (e - T).toNat = k
  have hself := Nat.log2_self_le (Nat.ne_of_gt hM)
  have hlt : M < 2 ^ (M.log2 + 1) := Nat.lt_log2_self
  unfold target at hT
  have hlength : M * 2 ^ k < 2 ^ 53 := by
    calc M * 2 ^ k < 2 ^ (M.log2 + 1) * 2 ^ k := Nat.mul_lt_mul_of_pos_right hlt (Nat.two_pow_pos k)
      _ = 2 ^ (M.log2 + 1 + k) := (Nat.pow_add ..).symm
      _ ≤ 2 ^ 53 := Nat.pow_le_pow_right (by decide) (by omega)
  have hpos : 0 < M * 2 ^ k := Nat.mul_pos hM (Nat.two_pow_pos k)
  have hfull : 2 ^ 52 ≤ M * 2 ^ k ∨ T = -1074 := by
    by_cases hT' : T = -1074
    · exact .inr hT'
    · refine .inl ?_
      have hsum : M.log2 + k = 52 := by omega
      rw [← hsum, Nat.pow_add]
      exact Nat.mul_le_mul_right _ hself
  refine ⟨M * 2 ^ k, hpos, ?_, ⟨hlength, by omega, hfull⟩, rfl⟩
  have hround : UnpackedFloat.round .binary64 s M e
      = roundWithAccuracy .binary64 s (M * 2 ^ k) T .exact := by
    rw [round_eq]
    unfold target
    rw [hT, hk]
    congr 1
    omega
  obtain ⟨r, -, -, hsame, hfinite, -⟩ :=
    roundWithAccuracy_eq s (m := M * 2 ^ k) (e := T) (by omega)
  have hstays : (target (M * 2 ^ k) T - T).toNat = 0 := by
    have := target_le_of_short hlength (e := T) (by omega)
    omega
  obtain rfl := hsame hstays
  rw [hround, hfinite hpos hlength]
  exact finite_congr rfl (by omega)

/-- A significand that is too long keeps 53 bits, and one is added at most. -/
private theorem round_long (s : Sign) {M : Nat} {e : Int} (hM : 0 < M) (hleast : -1074 ≤ e)
    (hlong : e < target M e) :
    ∃ m E, ∃ hm : 0 < m, UnpackedFloat.round .binary64 s M e = .finite s m E hm ∧ Fitting m E
      ∧ (target M e < E ∨ (E = target M e ∧ M / 2 ^ (target M e - e).toNat ≤ m)) := by
  have hself := Nat.log2_self_le (Nat.ne_of_gt hM)
  have hlt : M < 2 ^ (M.log2 + 1) := Nat.lt_log2_self
  have hround : UnpackedFloat.round .binary64 s M e
      = roundWithAccuracy .binary64 s M e .exact := by
    have hstays : (e - target M e).toNat = 0 := by omega
    rw [round_eq, hstays, Nat.pow_zero, Nat.mul_one]
    congr 1
    omega
  obtain ⟨r, hlow, hhigh, -, hfinite, hcarried⟩ := roundWithAccuracy_eq s (m := M) hleast
  generalize hk : (target M e - e).toNat = k at *
  have hlog : M.log2 = 52 + k := by
    unfold target at hk hlong
    omega
  have hq : 2 ^ 52 ≤ M / 2 ^ k := by
    rw [Nat.le_div_iff_mul_le (Nat.two_pow_pos k), ← Nat.pow_add, ← hlog]
    exact hself
  have hq' : M / 2 ^ k < 2 ^ 53 := by
    rw [Nat.div_lt_iff_lt_mul (Nat.two_pow_pos k), ← Nat.pow_add]
    refine Nat.lt_of_lt_of_le hlt (Nat.pow_le_pow_right (by decide) (by omega))
  rw [hround]
  by_cases hshort : r < 2 ^ 53
  · refine ⟨r, _, by omega, hfinite (by omega) hshort, ⟨hshort, by omega, .inl (by omega)⟩, ?_⟩
    exact .inr ⟨by omega, hlow⟩
  · refine ⟨_, _, _, hcarried (by omega), ⟨by decide, by omega, .inl (Nat.le_refl _)⟩, ?_⟩
    exact .inl (by omega)

/-- A sum other than zero is rounded to what fits, and what fits and is not above
the sum is not above that. -/
theorem round_finite (s : Sign) {M : Nat} {e : Int} (hM : 0 < M) (hleast : -1074 ≤ e) :
    ∃ m E, ∃ hm : 0 < m, UnpackedFloat.round .binary64 s M e = .finite s m E hm ∧ Fitting m E
      ∧ ∀ n f, Fitting n f → e ≤ f → n * 2 ^ (f - e).toNat ≤ M → f < E ∨ (f = E ∧ n ≤ m) := by
  by_cases hshort : target M e ≤ e
  · obtain ⟨m, hm, hround, hfits, hvalue⟩ := round_short s hM hleast hshort
    refine ⟨m, _, hm, hround, hfits, fun n f hn hef hle => .inr ?_⟩
    -- between the exponent of the sum and the target there is no room
    have hf := hn.le_target hef hle
    have hnone : (e - target M e).toNat = 0 := by omega
    have hnone' : (f - e).toNat = 0 := by omega
    rw [hnone, Nat.pow_zero, Nat.mul_one] at hvalue
    rw [hnone', Nat.pow_zero, Nat.mul_one] at hle
    exact ⟨by omega, by omega⟩
  · obtain ⟨m, E, hm, hround, hfits, hvalue⟩ := round_long s hM hleast (by omega)
    refine ⟨m, E, hm, hround, hfits, fun n f hn hef hle => ?_⟩
    have hf := hn.le_target hef hle
    rcases hvalue with hcarried | ⟨rfl, hlow⟩
    · exact .inl (by omega)
    · by_cases heq : f = target M e
      · subst heq
        have hdiv := (Nat.le_div_iff_mul_le (Nat.two_pow_pos _)).2 hle
        exact .inr ⟨rfl, Nat.le_trans hdiv hlow⟩
      · exact .inl (by omega)

end Stagecraft.Double
