/-
Doubles that become words.

A double stands for ± m · 2 ^ q, a rational number, and its whole part is
computed from this form by shifts. Shifting to the left multiplies, and what a
shift to the right drops is dropped toward the lesser number, so the two whole
parts are the floor and the ceiling of that rational number
(`floorWhole_eq`, `ceilWhole_eq`). As a word a whole part is brought between
the least word and the greatest, where the infinities are anyway, and what is
no number becomes zero (`AsWord`).
-/
import Mathlib.Data.Rat.Floor
import Mathlib.Tactic.FieldSimp
import Mathlib.Tactic.NormNum
import Stagecraft.Binary64

namespace Stagecraft.Binary64

/-- `n` is a double as a word, where `whole` gives the whole part of a rational number:
its whole part, brought between the least word and the greatest. -/
inductive AsWord (whole : ℚ → ℤ) : Binary64 → ℤ → Prop where
  | nan : AsWord whole .nan 0
  | infinite (negative : Bool) :
      AsWord whole (.infinite negative) (if negative then -2 ^ 63 else 2 ^ 63 - 1)
  | finite (negative : Bool) (m : ℕ) (q : ℤ) :
      AsWord whole (.finite negative m q)
        (max (-2 ^ 63) (min (whole (signed negative m * 2 ^ q)) (2 ^ 63 - 1)))

/-- The whole part is the greatest whole number that is not above the double. -/
theorem floorWhole_eq (negative : Bool) (m : ℕ) (q : ℤ) :
    floorWhole negative m q = ⌊(signed negative m * 2 ^ q : ℚ)⌋ := by
  unfold floorWhole
  split
  · next hq =>
    obtain ⟨k, rfl⟩ := Int.eq_ofNat_of_zero_le hq
    have hshift : (signed negative m * 2 ^ (k : ℤ) : ℚ) = (signed negative (m <<< k) : ℤ) := by
      rw [Nat.shiftLeft_eq, zpow_natCast]
      cases negative <;> simp [signed]
    rw [hshift, Int.floor_intCast]
    rfl
  · next hq =>
    obtain ⟨k, hk⟩ := Int.eq_ofNat_of_zero_le (show 0 ≤ -q by omega)
    have hquotient : (signed negative m * 2 ^ q : ℚ) = (signed negative m : ℚ) / (2 ^ k : ℕ) := by
      rw [show q = -(k : ℤ) by omega, zpow_neg, zpow_natCast, div_eq_mul_inv]
      norm_num
    rw [hquotient, Rat.floor_intCast_div_natCast, hk, Int.shiftRight_eq_div_pow]
    rfl

/-- And the other one the least whole number that is not below it. -/
theorem ceilWhole_eq (negative : Bool) (m : ℕ) (q : ℤ) :
    ceilWhole negative m q = ⌈(signed negative m * 2 ^ q : ℚ)⌉ := by
  have hsign : (signed (!negative) m : ℤ) = -signed negative m := by
    cases negative <;> simp [signed]
  unfold ceilWhole
  rw [floorWhole_eq, hsign, Int.cast_neg, neg_mul, Int.floor_neg, neg_neg]

/-- A double becomes a word by the whole part that is computed for it. -/
theorem asWord_toWord {round : ℚ → ℤ} {whole : Bool → ℕ → ℤ → ℤ}
    (h : ∀ negative m q, whole negative m q = round (signed negative m * 2 ^ q)) (x : Float) :
    AsWord round (ofFloat x) (toWord whole x) := by
  unfold toWord
  cases ofFloat x with
  | nan => exact .nan
  | infinite negative => exact .infinite negative
  | finite negative m q =>
      dsimp only
      rw [h]
      exact .finite negative m q

theorem asWord_floorWord (x : Float) : AsWord Int.floor (ofFloat x) (floorWord x) :=
  asWord_toWord floorWhole_eq x

theorem asWord_ceilWord (x : Float) : AsWord Int.ceil (ofFloat x) (ceilWord x) :=
  asWord_toWord ceilWhole_eq x

end Stagecraft.Binary64
