/-
What the rules of time ask of doubles.

The time of a game is counted in doubles, which round, overflow, and know
two zeros and what is no number. Few laws hold for all of them, and these
are the few that the rules of time rest on. Zero, of either sign, changes
nothing when it is added or taken away, but for turning the negative zero
into the positive one; and no sum makes a negative zero of anything else.
What is not negative stays so when it is scaled by a finite factor above
zero, and does not make smaller what it is added to, even if the sum is
rounded or becomes infinite.

All proofs look at the parts of the doubles. Rounding comes in where two
finite doubles are added (`Rounding.lean`), and nowhere else.
-/
import Mathlib.Order.Compare
import Stagecraft.Proofs.Doubles.Rounding

namespace Stagecraft.Double

open Float.Model UnpackedFloat

-- ================================================== comparisons by the parts

theorem parts_zero : parts 0.0 = .zero .positive := rfl

theorem parts_negZero : parts (-0.0) = .zero .negative := rfl

theorem zero_ne_negZero : (0.0 : Float) ≠ -0.0 := fun h =>
  UnpackedFloat.noConfusion ((parts_zero.symm.trans (congrArg parts h)).trans parts_negZero)
    fun hsign => Sign.noConfusion hsign

theorem le_iff {x y : Float} : x ≤ y ↔ (parts x).le (parts y) = true := decide_eq_true_iff

theorem lt_iff {x y : Float} : x < y ↔ (parts x).lt (parts y) = true := decide_eq_true_iff

theorem le_of_lt {x y : Float} (h : x < y) : x ≤ y := by
  rw [lt_iff] at h
  rw [le_iff]
  have hcompare : (parts x).compare (parts y) = some .lt := eq_of_beq h
  unfold UnpackedFloat.le
  rw [hcompare]
  rfl

theorem zero_le_zero : (0.0 : Float) ≤ 0.0 := by decide

/-- Whether a double is one of the two zeros. -/
def IsZero (x : Float) : Prop := x = 0.0 ∨ x = -0.0

theorem isZero_iff {x : Float} : IsZero x ↔ ∃ s, parts x = .zero s := by
  constructor
  · rintro (rfl | rfl)
    · exact ⟨_, parts_zero⟩
    · exact ⟨_, parts_negZero⟩
  · rintro ⟨s, hs⟩
    cases s with
    | positive => exact .inl (parts_injective (hs.trans parts_zero.symm))
    | negative => exact .inr (parts_injective (hs.trans parts_negZero.symm))

/-- The parts of a double that is not negative. -/
inductive NotNegative : UnpackedFloat → Prop where
  | zero (s : Sign) : NotNegative (.zero s)
  | finite (m : Nat) (e : Int) (hm : 0 < m) : NotNegative (.finite .positive m e hm)
  | infinity : NotNegative (.infinity .positive)

theorem zero_le_iff {x : Float} : (0.0 : Float) ≤ x ↔ NotNegative (parts x) := by
  rw [le_iff, parts_zero]
  generalize parts x = u
  constructor
  · intro h
    cases u with
    | notANumber => cases h
    | zero s => exact .zero s
    | infinity s =>
        cases s with
        | positive => exact .infinity
        | negative => cases h
    | finite s m e hm =>
        cases s with
        | positive => exact .finite m e hm
        | negative => cases h
  · rintro (_ | _ | _) <;> rfl

/-- A zero is not above zero. -/
theorem not_isZero_of_not_le {x : Float} (h : ¬x ≤ 0.0) : ¬IsZero x := by
  rintro (rfl | rfl) <;> exact h rfl

/-- What is above zero is not at zero or below. -/
theorem not_le_zero_of_pos {x : Float} (h : (0.0 : Float) < x) : ¬x ≤ 0.0 := by
  rw [lt_iff, parts_zero] at h
  rw [le_iff, parts_zero]
  generalize parts x = u at h ⊢
  cases u with
  | notANumber => cases h
  | zero s => cases h
  | infinity s =>
      cases s with
      | positive => exact Bool.false_ne_true
      | negative => cases h
  | finite s m e hm =>
      cases s with
      | positive => exact Bool.false_ne_true
      | negative => cases h

theorem compare_self {u : UnpackedFloat} (h : u ≠ .notANumber) : u.compare u = some .eq := by
  cases u with
  | notANumber => exact absurd rfl h
  | zero s => rfl
  | infinity s => cases s <;> rfl
  | finite s m e hm =>
      have hsame : (compare e e).then (compare m m) = .eq := by
        rw [compare_eq_iff_eq.2 rfl, compare_eq_iff_eq.2 rfl]
        rfl
      cases s with
      | positive => exact congrArg some hsame
      | negative => exact congrArg (fun o : Ordering => some o.swap) hsame

/-- A double equals itself unless it is no number. -/
theorem isNumber_iff {x : Float} : Scalar.isNumber x = true ↔ parts x ≠ .notANumber := by
  show ((parts x).compare (parts x) == some .eq) = true ↔ _
  constructor
  · intro h hparts
    rw [hparts] at h
    cases h
  · intro h
    rw [compare_self h]
    rfl

/-- A number that is not at zero or below is above zero. -/
theorem pos_of_not_le {x : Float} (hnumber : Scalar.isNumber x = true) (h : ¬x ≤ 0.0) :
    (0.0 : Float) < x := by
  rw [isNumber_iff] at hnumber
  rw [le_iff, parts_zero] at h
  rw [lt_iff, parts_zero]
  generalize parts x = u at hnumber h ⊢
  cases u with
  | notANumber => exact absurd rfl hnumber
  | zero s => exact absurd rfl h
  | infinity s =>
      cases s with
      | positive => rfl
      | negative => exact absurd rfl h
  | finite s m e hm =>
      cases s with
      | positive => rfl
      | negative => exact absurd rfl h

/-- The difference of a double with itself is a number if the double is finite. -/
theorem isFinite_eq (x : Float) : Scalar.isFinite x = x.isFinite := by
  have hdiff : parts (x - x) = parts (ofParts (UnpackedFloat.sub .binary64 (parts x) (parts x))) :=
    rfl
  rw [Bool.eq_iff_iff]
  refine isNumber_iff.trans ?_
  show _ ↔ (parts x).isFinite = true
  rw [hdiff]
  cases parts x with
  | notANumber => exact iff_of_false (fun h => h parts_ofParts_notANumber) Bool.false_ne_true
  | infinity s =>
      cases s <;> exact iff_of_false (fun h => h parts_ofParts_notANumber) Bool.false_ne_true
  | zero s => cases s <;> exact iff_of_true (fun h => nomatch h) rfl
  | finite s m e hm =>
      refine iff_of_true (fun h => ?_) rfl
      have hzero : UnpackedFloat.sub .binary64 (.finite s m e hm) (.finite s m e hm)
          = .zero .positive := by
        unfold UnpackedFloat.sub
        dsimp only
        rw [sub_self]
        rfl
      rw [hzero, parts_ofParts_zero] at h
      cases h

/-- What is above zero has a positive sign. -/
theorem parts_of_pos {x : Float} (h : (0.0 : Float) < x) (hfinite : x.isFinite = true) :
    ∃ m e hm, parts x = .finite .positive m e hm := by
  rw [lt_iff, parts_zero] at h
  change (parts x).isFinite = true at hfinite
  generalize parts x = u at h hfinite ⊢
  cases u with
  | notANumber => cases h
  | zero s => cases h
  | infinity s => cases hfinite
  | finite s m e hm =>
      cases s with
      | positive => exact ⟨m, e, hm, rfl⟩
      | negative => cases h

/-- Finite parts with one sign compare equal if they are the same. -/
theorem eq_of_compare_finite {e f : Int} {m n : Nat}
    (h : (compare e f).then (compare m n) = .eq) : e = f ∧ m = n := by
  obtain ⟨he, hm⟩ := Ordering.then_eq_eq.1 h
  exact ⟨compare_eq_iff_eq.1 he, compare_eq_iff_eq.1 hm⟩

theorem eq_of_compare {u v : UnpackedFloat} (h : u.compare v = some .eq) :
    u = v ∨ ∃ s t, u = .zero s ∧ v = .zero t := by
  cases u with
  | notANumber => cases h
  | zero s =>
      cases v with
      | zero t => exact .inr ⟨s, t, rfl, rfl⟩
      | notANumber => cases h
      | infinity t => cases t <;> cases h
      | finite t n f hn => cases t <;> cases h
  | infinity s =>
      cases v with
      | infinity t =>
          cases s with
          | positive => cases t with
            | positive => exact .inl rfl
            | negative => cases h
          | negative => cases t with
            | positive => cases h
            | negative => exact .inl rfl
      | _ => cases s <;> cases h
  | finite s m e hm =>
      cases v with
      | notANumber => cases s <;> cases h
      | zero t => cases s <;> cases h
      | infinity t => cases s <;> cases t <;> cases h
      | finite t n f hn =>
          cases s with
          | positive => cases t with
            | positive =>
                obtain ⟨he, hmn⟩ := eq_of_compare_finite (Option.some.inj h)
                exact .inl (finite_congr hmn he)
            | negative => cases h
          | negative => cases t with
            | positive => cases h
            | negative =>
                have hswap := Ordering.swap_eq_eq.1 (Option.some.inj h)
                obtain ⟨he, hmn⟩ := eq_of_compare_finite hswap
                exact .inl (finite_congr hmn he)

/-- Doubles that compare equal are the same, or both zero. -/
theorem eq_or_isZero_of_beq {x y : Float} (h : (x == y) = true) :
    x = y ∨ (IsZero x ∧ IsZero y) := by
  obtain hsame | ⟨s, t, hx, hy⟩ := eq_of_compare (eq_of_beq h)
  · exact .inl (parts_injective hsame)
  · exact .inr ⟨isZero_iff.2 ⟨s, hx⟩, isZero_iff.2 ⟨t, hy⟩⟩

-- ============================================================== zero

section Zero

variable {x z : Float}

/-- Taking zero away from what is no zero changes nothing. -/
theorem sub_isZero (hz : IsZero z) (hx : ¬IsZero x) : x - z = x := by
  obtain ⟨s, hs⟩ := isZero_iff.1 hz
  refine Eq.trans (congrArg ofParts ?_) (ofParts_parts x)
  show UnpackedFloat.sub .binary64 (parts x) (parts z) = parts x
  rw [hs]
  cases hparts : parts x with
  | notANumber => rfl
  | infinity s => rfl
  | zero s => exact absurd (isZero_iff.2 ⟨s, hparts⟩) hx
  | finite s m e hm => rfl

/-- Adding zero to what is not the negative zero changes nothing. -/
theorem add_isZero (hz : IsZero z) (hx : x ≠ -0.0) : x + z = x := by
  obtain ⟨s, hs⟩ := isZero_iff.1 hz
  refine Eq.trans (congrArg ofParts ?_) (ofParts_parts x)
  show UnpackedFloat.add .binary64 (parts x) (parts z) = parts x
  rw [hs]
  cases hparts : parts x with
  | notANumber => rfl
  | infinity s => rfl
  | finite s m e hm => rfl
  | zero t =>
      cases t with
      | positive => cases s <;> rfl
      | negative => exact absurd (parts_injective (hparts.trans parts_negZero.symm)) hx

/-- Zero times what is finite is zero. -/
theorem isZero_mul (hz : IsZero z) (hx : x.isFinite = true) : IsZero (z * x) := by
  obtain ⟨s, hs⟩ := isZero_iff.1 hz
  change (parts x).isFinite = true at hx
  have hzero : ∃ t, UnpackedFloat.mul .binary64 (parts z) (parts x) = .zero t := by
    rw [hs]
    cases hparts : parts x with
    | notANumber =>
        rw [hparts] at hx
        cases hx
    | infinity t =>
        rw [hparts] at hx
        cases hx
    | zero t => exact ⟨_, rfl⟩
    | finite t m e hm => exact ⟨_, rfl⟩
  obtain ⟨t, ht⟩ := hzero
  refine isZero_iff.2 ⟨t, ?_⟩
  show parts (ofParts (UnpackedFloat.mul .binary64 (parts z) (parts x))) = .zero t
  rw [ht, parts_ofParts_zero]

end Zero

-- ================================================================ sums

/-- Signed significands are rounded by their size, and zero is positive. -/
theorem normalize_cases (M : Int) (e : Int) :
    (M = 0 ∧ UnpackedFloat.normalize .binary64 M e .positive = .zero .positive)
      ∨ (0 < M ∧ UnpackedFloat.normalize .binary64 M e .positive
        = UnpackedFloat.round .binary64 .positive M.toNat e)
      ∨ (M < 0 ∧ UnpackedFloat.normalize .binary64 M e .positive
        = UnpackedFloat.round .binary64 .negative (-M).toNat e) := by
  unfold UnpackedFloat.normalize
  rcases lt_trichotomy M 0 with hM | hM | hM
  · rw [compare_lt_iff_lt.2 hM]
    exact .inr (.inr ⟨hM, rfl⟩)
  · rw [compare_eq_iff_eq.2 hM]
    exact .inl ⟨hM, rfl⟩
  · rw [compare_gt_iff_gt.2 hM]
    exact .inr (.inl ⟨hM, rfl⟩)

/-- A finite double, or infinity where there is none so large. -/
def capped (s : Sign) (m : Nat) (e : Int) (hm : 0 < m) : UnpackedFloat :=
  if 971 < e then .infinity s else .finite s m e hm

/-- The exact sum of two significands at the lower exponent. -/
def exactSum (s t : Sign) (m n : Nat) (e f : Int) : Int :=
  s.apply (m * 2 ^ (e - min e f).toNat : Nat) + t.apply (n * 2 ^ (f - min e f).toNat : Nat)

variable {x y : Float} {s t : Sign} {m n : Nat} {e f : Int} {hm : 0 < m} {hn : 0 < n}

theorem parts_add_finite (hx : parts x = .finite s m e hm) (hy : parts y = .finite t n f hn) :
    parts (x + y) = UnpackedFloat.unpack .binary64 (UnpackedFloat.pack .binary64
      (UnpackedFloat.normalize .binary64 (exactSum s t m n e f) (min e f) .positive)) := by
  show parts (ofParts (UnpackedFloat.add .binary64 (parts x) (parts y))) = _
  rw [hx, hy, parts_ofParts]
  unfold UnpackedFloat.add decreaseExponent exactSum
  dsimp only
  rw [Nat.shiftLeft_eq, Nat.shiftLeft_eq]

/-- A sum of finite doubles is the positive zero, or it has the sign of the exact
sum and is not zero. -/
theorem parts_add_finite_cases (hx : parts x = .finite s m e hm)
    (hy : parts y = .finite t n f hn) :
    parts (x + y) = .zero .positive
      ∨ ∃ u k g, ∃ hk : 0 < k, parts (x + y) = capped u k g hk := by
  have hleast : -1074 ≤ min e f :=
    Int.le_min.2 ⟨(fitting_parts hx).1.least, (fitting_parts hy).1.least⟩
  rw [parts_add_finite hx hy]
  obtain ⟨-, hzero⟩ | ⟨hM, hround⟩ | ⟨hM, hround⟩ :=
    normalize_cases (exactSum s t m n e f) (min e f)
  · rw [hzero]
    exact .inl (unpack_special .positive).2.1
  · obtain ⟨k, g, hk, hvalue, hfits, -⟩ := round_finite .positive (Int.lt_toNat.2 hM) hleast
    rw [hround, hvalue, unpack_pack_finite _ hk hfits]
    exact .inr ⟨_, k, g, hk, rfl⟩
  · have hM' : 0 < (-exactSum s t m n e f).toNat := by omega
    obtain ⟨k, g, hk, hvalue, hfits, -⟩ := round_finite .negative hM' hleast
    rw [hround, hvalue, unpack_pack_finite _ hk hfits]
    exact .inr ⟨_, k, g, hk, rfl⟩

/-- A sum of positive doubles is positive, and not below the first. -/
theorem parts_add_positive (hx : parts x = .finite .positive m e hm)
    (hy : parts y = .finite .positive n f hn) :
    ∃ k g, ∃ hk : 0 < k, parts (x + y) = capped .positive k g hk
      ∧ (e < g ∨ (e = g ∧ m ≤ k)) := by
  have hfits := (fitting_parts hx).1
  have hleast : -1074 ≤ min e f := Int.le_min.2 ⟨hfits.least, (fitting_parts hy).1.least⟩
  have hsum : exactSum .positive .positive m n e f
      = ((m * 2 ^ (e - min e f).toNat + n * 2 ^ (f - min e f).toNat : Nat) : Int) :=
    (Int.natCast_add _ _).symm
  have hpos : 0 < m * 2 ^ (e - min e f).toNat := Nat.mul_pos hm (Nat.two_pow_pos _)
  rw [parts_add_finite hx hy, hsum]
  generalize hM : m * 2 ^ (e - min e f).toNat + n * 2 ^ (f - min e f).toNat = M
  have hle : m * 2 ^ (e - min e f).toNat ≤ M := by
    rw [← hM]
    exact Nat.le_add_right _ _
  obtain ⟨hzero, -⟩ | ⟨-, hround⟩ | ⟨hneg, -⟩ := normalize_cases (M : Int) (min e f)
  · omega
  · obtain ⟨k, g, hk, hvalue, hfits', hbound⟩ :=
      round_finite .positive (M := M) (by omega) hleast
    rw [hround, Int.toNat_natCast, hvalue, unpack_pack_finite _ hk hfits']
    exact ⟨k, g, hk, rfl, hbound m e hfits (Int.min_le_left _ _) hle⟩
  · omega

/-- Both are finite, and none of them is a zero. -/
def BothFinite (u v : UnpackedFloat) : Prop :=
  ∃ s m e hm t n f hn, u = .finite s m e hm ∧ v = .finite t n f hn

/-- Only a sum of two finite doubles, none of them zero, is rounded. -/
theorem parts_add_exact (h : ¬BothFinite (parts x) (parts y)) :
    parts (x + y) = UnpackedFloat.add .binary64 (parts x) (parts y) := by
  -- a term that is the sum is put together again as it was
  have hself : ∀ z : Float, parts (ofParts (parts z)) = parts z :=
    fun z => congrArg parts (ofParts_parts z)
  have hx := hself x
  have hy := hself y
  show parts (ofParts (UnpackedFloat.add .binary64 (parts x) (parts y))) = _
  cases hpx : parts x with
  | notANumber => exact parts_ofParts_notANumber
  | infinity s =>
      cases parts y with
      | notANumber => exact parts_ofParts_notANumber
      | infinity t => cases s <;> cases t <;> rfl
      | zero t => exact parts_ofParts_infinity s
      | finite t n f hn => exact parts_ofParts_infinity s
  | zero s =>
      cases hpy : parts y with
      | notANumber => exact parts_ofParts_notANumber
      | infinity t => exact parts_ofParts_infinity t
      | zero t => cases s <;> cases t <;> rfl
      | finite t n f hn =>
          rw [hpy] at hy
          exact hy
  | finite s m e hm =>
      rw [hpx] at hx
      cases hpy : parts y with
      | notANumber => exact parts_ofParts_notANumber
      | infinity t => exact parts_ofParts_infinity t
      | zero t => exact hx
      | finite t n f hn => exact absurd ⟨s, m, e, hm, t, n, f, hn, hpx, hpy⟩ h

/-- No sum is the negative zero but that of negative zeros. -/
theorem add_ne_negZero {x : Float} (hx : x ≠ -0.0) (y : Float) : x + y ≠ -0.0 := by
  intro hsum
  have hparts : parts (x + y) = .zero .negative := (congrArg parts hsum).trans parts_negZero
  have hx' : parts x ≠ .zero .negative := fun h => hx (parts_injective (h.trans parts_negZero.symm))
  by_cases hfinite : BothFinite (parts x) (parts y)
  · obtain ⟨s, m, e, hm, t, n, f, hn, hpx, hpy⟩ := hfinite
    obtain hzero | ⟨u, k, g, hk, hvalue⟩ := parts_add_finite_cases hpx hpy
    · rw [hzero] at hparts
      cases hparts
    · rw [hvalue] at hparts
      unfold capped at hparts
      split at hparts <;> cases hparts
  · -- an exact sum is read off the kinds of its terms
    rw [parts_add_exact hfinite] at hparts
    generalize parts x = u at hparts hx' hfinite
    generalize parts y = v at hparts hfinite
    cases u with
    | notANumber => cases hparts
    | infinity s =>
        cases v with
        | infinity t => cases s <;> cases t <;> cases hparts
        | _ => cases hparts
    | zero s =>
        cases s with
        | negative => exact hx' rfl
        | positive =>
            cases v with
            | zero t => cases t <;> cases hparts
            | _ => cases hparts
    | finite s m e hm =>
        cases v with
        | finite t n f hn => exact hfinite ⟨_, _, _, _, _, _, _, _, rfl, rfl⟩
        | _ => cases hparts

-- ======================================================= what is not negative

theorem le_finite {m k : Nat} {e g : Int} {hm : 0 < m} {hk : 0 < k}
    (h : e < g ∨ (e = g ∧ m ≤ k)) :
    (UnpackedFloat.finite .positive m e hm).le (.finite .positive k g hk) = true := by
  show ((compare e g).then (compare m k)).isLE = true
  rcases h with hlt | ⟨rfl, hle⟩
  · rw [compare_lt_iff_lt.2 hlt]
    rfl
  · rw [compare_eq_iff_eq.2 rfl]
    show (compare m k).isLE = true
    rcases Nat.lt_or_eq_of_le hle with hlt | rfl
    · rw [compare_lt_iff_lt.2 hlt]
      rfl
    · rw [compare_eq_iff_eq.2 rfl]
      rfl

/-- Adding what is not negative makes nothing smaller that is not negative. -/
theorem le_add_of_nonneg {x y : Float} (hx : (0.0 : Float) ≤ x) (hy : (0.0 : Float) ≤ y) :
    x ≤ x + y := by
  rw [zero_le_iff] at hx hy
  rw [le_iff]
  by_cases hfinite : BothFinite (parts x) (parts y)
  · obtain ⟨s, m, e, hm, t, n, f, hn, hpx, hpy⟩ := hfinite
    rw [hpx] at hx
    rw [hpy] at hy
    cases hx
    cases hy
    obtain ⟨k, g, hk, hsum, hle⟩ := parts_add_positive hpx hpy
    rw [hpx, hsum]
    -- a sum that is too large is infinity, which is above everything
    unfold capped
    split
    · rfl
    · exact le_finite hle
  · rw [parts_add_exact hfinite]
    generalize parts x = u at hx hfinite
    generalize parts y = v at hy hfinite
    cases hx with
    | infinity =>
        cases hy <;> rfl
    | zero s =>
        cases hy with
        | zero t => cases s <;> cases t <;> rfl
        | _ => rfl
    | finite m e hm =>
        cases hy with
        | zero t => exact le_finite (.inr ⟨rfl, Nat.le_refl m⟩)
        | infinity => rfl
        | finite n f hn => exact absurd ⟨_, _, _, _, _, _, _, _, rfl, rfl⟩ hfinite

/-- What is above something that is not negative is not negative. -/
theorem nonneg_of_le {x y : Float} (hx : (0.0 : Float) ≤ x) (hxy : x ≤ y) : (0.0 : Float) ≤ y := by
  rw [zero_le_iff] at hx ⊢
  rw [le_iff] at hxy
  generalize parts x = u at hx hxy
  generalize parts y = v at hxy ⊢
  cases v with
  | notANumber => cases hx <;> cases hxy
  | zero t => exact .zero t
  | infinity t =>
      cases t with
      | positive => exact .infinity
      | negative => cases hx <;> cases hxy
  | finite t n f hn =>
      cases t with
      | positive => exact .finite n f hn
      | negative => cases hx <;> cases hxy

theorem le_self_of_nonneg {x : Float} (hx : (0.0 : Float) ≤ x) : x ≤ x := by
  rw [zero_le_iff] at hx
  rw [le_iff]
  generalize parts x = u at hx
  cases hx with
  | zero s => rfl
  | infinity => rfl
  | finite m e hm => exact le_finite (.inr ⟨rfl, Nat.le_refl m⟩)

/-- A pattern without a sign is not negative, unless it stands for no number. -/
theorem notNegative_packComponents {e : BitVec 11} (m : BitVec 52) (he : e ≠ -1#11) :
    NotNegative (UnpackedFloat.unpack .binary64 (packComponents .binary64 .positive e m)) := by
  by_cases hfirst : e = 0#11
  · subst hfirst
    by_cases hzero : m = 0#52
    · subst hzero
      have hpattern := (unpack_special .positive).2.1
      unfold packedZero at hpattern
      exact hpattern ▸ .zero .positive
    · have hpos : 0 < m.toNat := Nat.pos_of_ne_zero fun h0 => hzero (BitVec.eq_of_toNat_eq h0)
      rw [unpack_subnormal .positive hzero hpos]
      exact .finite _ _ _
  · rw [unpack_normal .positive m he hfirst]
    exact .finite _ _ _

/-- Significands that do not fit are not negative either when they are put together
with a positive sign. -/
theorem notNegative_ofParts {m : Nat} {e : Int} (hm : 0 < m) :
    NotNegative (parts (ofParts (.finite .positive m e hm))) := by
  rw [parts_ofParts, pack_finite]
  split
  · rw [(unpack_special .positive).1]
    exact .infinity
  next hfield =>
    split
    · exact notNegative_packComponents _ (ofNat_ne (by omega) (by simp; omega))
    · exact notNegative_packComponents _ (by decide)

/-- Rounding keeps the sign. -/
theorem roundWithAccuracy_cases (s : Sign) (m : Nat) (e : Int) (a : Accuracy) :
    roundWithAccuracy .binary64 s m e a = .zero s
      ∨ ∃ k g, ∃ hk : 0 < k, roundWithAccuracy .binary64 s m e a = .finite s k g hk := by
  unfold roundWithAccuracy
  dsimp only
  split
  next => exact .inl rfl
  next hne => exact .inr ⟨_, _, Nat.pos_of_ne_zero hne, rfl⟩

/-- What is not negative stays so when it is scaled. -/
theorem mul_nonneg {x s : Float} (hx : (0.0 : Float) ≤ x) (hs : (0.0 : Float) < s)
    (hfinite : s.isFinite = true) : (0.0 : Float) ≤ x * s := by
  obtain ⟨n, f, hn, hps⟩ := parts_of_pos hs hfinite
  rw [zero_le_iff] at hx ⊢
  show NotNegative (parts (ofParts (UnpackedFloat.mul .binary64 (parts x) (parts s))))
  rw [hps]
  generalize parts x = u at hx
  cases hx with
  | zero t =>
      have hproduct : UnpackedFloat.mul .binary64 (.zero t) (.finite .positive n f hn)
          = .zero (t * .positive) := rfl
      rw [hproduct, parts_ofParts_zero]
      exact .zero _
  | infinity =>
      have hproduct : UnpackedFloat.mul .binary64 (.infinity .positive) (.finite .positive n f hn)
          = .infinity .positive := rfl
      rw [hproduct, parts_ofParts_infinity]
      exact .infinity
  | finite m e hm =>
      have hproduct : UnpackedFloat.mul .binary64 (.finite .positive m e hm)
          (.finite .positive n f hn)
          = roundWithAccuracy .binary64 .positive (m * n) (e + f) .exact := rfl
      rw [hproduct]
      obtain hzero | ⟨k, g, hk, hvalue⟩ :=
        roundWithAccuracy_cases .positive (m * n) (e + f) .exact
      · rw [hzero, parts_ofParts_zero]
        exact .zero .positive
      · rw [hvalue]
        exact notNegative_ofParts hk

end Stagecraft.Double
