/-
Draws that are repeated until a word is accepted.

A generator is asked for words, one after the other, and the first that is
accepted makes the result (`Draws`). Nothing in this says that a word is ever
accepted, and a generator that runs in a short circle might never come by one.

This one runs through all of its states, since the step by which the state
grows is odd: every state is reached from every other (`exists_skip_eq`). And
the state of all ones gives the word of all ones, whose product with any length
has a low half that is not refused (`accept_allOnes`). So draws for a number
below a length come to an end, from any state (`draws_below`), and what is
accepted is below the length.
-/
import Stagecraft.Random

namespace Stagecraft.Random

variable {β γ : Type}

-- ========================================================== the repetition

/-- Words are drawn until one is accepted; the result is what it makes, with the
generator that is left then. -/
inductive Draws (accept : UInt64 → Option β) : Random → β × Random → Prop where
  | taken {g : Random} {b : β} (h : accept g.next.1 = some b) : Draws accept g (b, g.next.2)
  | again {g : Random} {r : β × Random} (h : accept g.next.1 = none)
      (hrest : Draws accept g.next.2 r) : Draws accept g r

namespace Draws

variable {accept : UInt64 → Option β} {g : Random} {r s : β × Random}

/-- There is one result at most. -/
theorem unique (hr : Draws accept g r) (hs : Draws accept g s) : s = r := by
  induction hr with
  | taken h =>
      cases hs with
      | taken h' =>
          cases h.symm.trans h'
          rfl
      | again h' => cases h.symm.trans h'
  | again h _ ih =>
      cases hs with
      | taken h' => cases h.symm.trans h'
      | again _ hrest => exact ih hrest

/-- Whatever holds of all that is accepted holds of the result. -/
theorem of_accept {P : β → Prop} (hP : ∀ word b, accept word = some b → P b)
    (hr : Draws accept g r) : P r.1 := by
  induction hr with
  | taken h => exact hP _ _ h
  | again _ _ ih => exact ih

/-- Making something else of the words that are accepted makes it of the result. -/
theorem map (f : β → γ) (hr : Draws accept g r) :
    Draws (fun word => (accept word).map f) g (f r.1, r.2) := by
  induction hr with
  | taken h => exact .taken (congrArg (Option.map f) h)
  | again h _ ih => exact .again (congrArg (Option.map f) h) ih

end Draws

-- ============================================================== all states

/-- The generator after `n` more words. -/
def skip (g : Random) (n : UInt64) : Random := ⟨g.state + n * step⟩

theorem skip_zero (g : Random) : g.skip 0 = g := by
  unfold skip
  rw [UInt64.zero_mul, UInt64.add_zero]

theorem skip_next (g : Random) (n : UInt64) : g.next.2.skip n = g.skip (n + 1) := by
  have hstate : g.state + step + n * step = g.state + (n + 1) * step := by grind
  exact congrArg Random.mk hstate

/-- The step is odd, so it has an inverse. -/
theorem step_mul_inverse : step * 0x32e25c49d2beaf2d = 1 := by decide +kernel

/-- From every state the generator comes to every other. -/
theorem exists_skip_eq (g h : Random) : ∃ n, g.skip n = h := by
  have hstate : g.state + (h.state - g.state) * 0x32e25c49d2beaf2d * step = h.state := by
    have hinverse := step_mul_inverse
    grind
  exact ⟨_, congrArg Random.mk hstate⟩

/-- A word that is accepted is found within the period. -/
theorem draws_drawUntil {accept : UInt64 → Option β} (fallback : β) {n : Nat} {g : Random} {k : Nat}
    (hk : k < n) (h : (accept (g.skip (.ofNat k)).next.1).isSome = true) :
    Draws accept g (drawUntil accept fallback n g) := by
  induction n generalizing g k with
  | zero => exact absurd hk (Nat.not_lt_zero k)
  | succ n ih =>
      unfold drawUntil
      dsimp only
      cases hword : accept g.next.1 with
      | some b => exact .taken hword
      | none =>
          refine .again hword ?_
          cases k with
          | zero =>
              have hfirst : g.skip (.ofNat 0) = g := g.skip_zero
              rw [hfirst, hword] at h
              cases h
          | succ k =>
              rw [UInt64.ofNat_add, UInt64.ofNat_one, ← skip_next] at h
              exact ih (Nat.lt_of_succ_lt_succ hk) h

-- ================================================== numbers below a length

/-- What a word makes of a number below `n`, if it is accepted. -/
def acceptBelow (n : Nat) (word : UInt64) : Option Nat :=
  if word.toNat * n % UInt64.size < (UInt64.size - n) % n then none
  else some (word.toNat * n / UInt64.size)

theorem below_eq (g : Random) (n : Nat) : g.below n = drawUntil (acceptBelow n) 0 period g := rfl

theorem lt_of_acceptBelow {n : Nat} (hn : 0 < n) {word : UInt64} {k : Nat}
    (h : acceptBelow n word = some k) : k < n := by
  obtain ⟨-, h⟩ := Option.ite_none_left_eq_some.1 h
  cases h
  exact Nat.div_lt_of_lt_mul (Nat.mul_lt_mul_of_pos_right word.toNat_lt_size hn)

/-- The word of all ones is accepted for every length. -/
theorem accept_allOnes {n : Nat} (hn : 0 < n) (hlength : n < UInt64.size) :
    (acceptBelow n 0xffffffffffffffff).isSome = true := by
  have hsize : UInt64.size = (0xffffffffffffffff : UInt64).toNat + 1 := rfl
  have hlow : (0xffffffffffffffff : UInt64).toNat * n % UInt64.size = UInt64.size - n := by
    generalize (0xffffffffffffffff : UInt64).toNat = ones at hsize
    have hproduct : ones * n = UInt64.size * (n - 1) + (UInt64.size - n) := by
      obtain ⟨m, rfl⟩ := Nat.exists_eq_succ_of_ne_zero (Nat.ne_of_gt hn)
      rw [hsize] at hlength ⊢
      rw [Nat.succ_sub_one, Nat.mul_succ, Nat.add_one_mul]
      omega
    rw [hproduct, Nat.mul_add_mod, Nat.mod_eq_of_lt (Nat.sub_lt (by decide) hn)]
  unfold acceptBelow
  rw [hlow, if_neg (Nat.not_lt.2 (Nat.mod_le _ _))]
  rfl

/-- The state before the one of all ones gives the word of all ones. -/
theorem next_allOnes : (⟨0xffffffffffffffff - step⟩ : Random).next.1 = 0xffffffffffffffff := by
  decide +kernel

/-- Draws for a number below a length come to an end. -/
theorem draws_below (g : Random) {n : Nat} (hn : 0 < n) (hlength : n < UInt64.size) :
    Draws (acceptBelow n) g (g.below n) := by
  obtain ⟨k, hk⟩ := g.exists_skip_eq ⟨0xffffffffffffffff - step⟩
  rw [below_eq]
  refine draws_drawUntil 0 k.toNat_lt_size ?_
  rw [UInt64.ofNat_toNat, hk, next_allOnes]
  exact accept_allOnes hn hlength

theorem below_lt (g : Random) {n : Nat} (hn : 0 < n) (hlength : n < UInt64.size) :
    (g.below n).1 < n :=
  (g.draws_below hn hlength).of_accept fun _ _ => lt_of_acceptBelow hn

end Stagecraft.Random
