/-
Random whole numbers, in machine words.

A whole number from `low` to `high` is drawn without any number that is larger
than a word. The length of the range may be larger than the greatest signed
word, so the difference of the bounds wraps around, and is right again when it
is taken without a sign. The number below the length is the high half of a
product, and adding it to `low` may wrap around as well. `Between` says what
is computed so, and how often words are drawn is left open there.

In whole numbers it is simple: the draw for a number below the length comes to
an end (`draws_below`), and the result is that number more than `low`
(`between_iff`). So the result is within the range, for all doubles that a
range can be given by, and the draw in words always has one.
-/
import Stagecraft.Proofs.Doubles.Words
import Stagecraft.Proofs.Random.Draws

namespace Stagecraft.Random

variable {g : Random}

-- ================================================== a number below a length

/-- The high half of the product of two words. -/
def highHalf (a b : UInt64) : UInt64 := .ofNat (a.toNat * b.toNat / UInt64.size)

/-- What a word makes of a number below a length, unless the low half of the product is
refused. -/
def acceptWord (length word : UInt64) : Option UInt64 :=
  if word * length < -length % length then none else some (highHalf word length)

/-- The result of drawing a number below a length, in words. A low half that is not below
the length is never refused, and there the remainder is not looked for. -/
def Below (length : UInt64) (g : Random) (r : UInt64 × Random) : Prop :=
  if g.next.1 * length < length then Draws (acceptWord length) g r
  else r = (highHalf g.next.1 length, g.next.2)

section Below

variable {n : ℕ} (hn : 0 < n) (hlength : n < UInt64.size)

include hn hlength

theorem acceptWord_eq (word : UInt64) :
    acceptWord (.ofNat n) word = (acceptBelow n word).map UInt64.ofNat := by
  have htoNat : (UInt64.ofNat n).toNat = n := UInt64.toNat_ofNat_of_lt hlength
  have hrefused : word * .ofNat n < -.ofNat n % .ofNat n
      ↔ word.toNat * n % UInt64.size < (UInt64.size - n) % n := by
    rw [UInt64.lt_iff_toNat_lt, UInt64.toNat_mul, UInt64.toNat_mod, UInt64.toNat_neg, htoNat,
      Nat.mod_eq_of_lt (Nat.sub_lt (by decide) hn)]
  unfold acceptWord acceptBelow highHalf
  rw [htoNat]
  split_ifs with hword hword' hword'
  · rfl
  · exact absurd (hrefused.1 hword) hword'
  · exact absurd (hrefused.2 hword') hword
  · rfl

/-- In words the same number is drawn. -/
theorem below_iff (g : Random) (r : UInt64 × Random) :
    Below (.ofNat n) g r ↔ r = (.ofNat (g.below n).1, (g.below n).2) := by
  have htoNat : (UInt64.ofNat n).toNat = n := UInt64.toNat_ofNat_of_lt hlength
  have hdraws := g.draws_below hn hlength
  have haccept : acceptWord (.ofNat n) = fun word => (acceptBelow n word).map UInt64.ofNat :=
    funext (acceptWord_eq hn hlength)
  unfold Below
  split_ifs with hlow
  · rw [haccept]
    have hwords := hdraws.map UInt64.ofNat
    exact ⟨fun hr => hwords.unique hr, fun hr => hr ▸ hwords⟩
  · -- the first word is accepted at once
    have hhigh : ¬g.next.1.toNat * n % UInt64.size < (UInt64.size - n) % n := by
      rw [UInt64.lt_iff_toNat_lt, UInt64.toNat_mul, htoNat] at hlow
      exact fun hrefused => hlow (hrefused.trans (Nat.mod_lt _ hn))
    have htaken : g.below n = (g.next.1.toNat * n / UInt64.size, g.next.2) :=
      (Draws.taken (if_neg hhigh)).unique hdraws
    rw [htaken]
    unfold highHalf
    rw [htoNat]

end Below

-- ========================================================= a number of a range

/-- The result of drawing a number from `low` to `high`, in words. If these are all the
words, any word will do. -/
def Between (low high : Int64) (g : Random) (r : Int64 × Random) : Prop :=
  if low = .minValue ∧ high = .maxValue then r = (g.next.1.toInt64, g.next.2)
  else ∃ s, Below (high - low + 1).toUInt64 g s ∧ r = (low + s.1.toInt64, s.2)

/-- Where words are left out, the number below the length is added to the lower bound. -/
theorem between_iff_of_below {low high : Int64} {w : UInt64} {h : Random}
    (hsome : ¬(low = .minValue ∧ high = .maxValue))
    (hbelow : ∀ s, Below (high - low + 1).toUInt64 g s ↔ s = (w, h)) (r : Int64 × Random) :
    Between low high g r ↔ r = (low + w.toInt64, h) := by
  unfold Between
  rw [if_neg hsome]
  simp only [hbelow, exists_eq_left]

/-- What is drawn in words is the lower bound and a number below the length. -/
theorem between_iff {lo hi : Int64} (h : lo < hi) (g : Random) (r : Int64 × Random) :
    Between lo (hi - 1) g r
      ↔ r = (.ofInt (lo.toInt + (g.below (hi.toInt - lo.toInt).toNat).1),
          (g.below (hi.toInt - lo.toInt).toNat).2) := by
  rw [Int64.lt_iff_toInt_lt] at h
  have hlo := lo.le_toInt
  have hhi := hi.toInt_lt
  generalize hn : (hi.toInt - lo.toInt).toNat = n
  have hlength : (hi - 1 - lo + 1).toUInt64 = .ofNat n := by
    have hdifference : hi - 1 - lo + 1 = .ofInt n := by
      rw [← hn, Int.toNat_of_nonneg (by omega), Int64.ofInt_sub, Int64.ofInt_toInt,
        Int64.ofInt_toInt]
      grind
    rw [hdifference, Int64.ofInt_eq_ofNat, Int64.toUInt64_ofNat']
  have hsome : ¬(lo = .minValue ∧ hi - 1 = .maxValue) := by
    rintro ⟨-, hall⟩
    have hlast : hi - 1 = .ofInt (hi.toInt - 1) := by
      rw [Int64.ofInt_sub, Int64.ofInt_toInt]
      rfl
    have hbelow : (hi - 1).toInt = hi.toInt - 1 := by
      rw [hlast]
      exact Int64.toInt_ofInt_of_le (by omega) (by omega)
    rw [hall, Int64.toInt_maxValue] at hbelow
    omega
  have hsize : n < UInt64.size := by
    unfold UInt64.size
    omega
  have hbelow := below_iff (by omega) hsize g
  rw [← hlength] at hbelow
  rw [between_iff_of_below hsome hbelow, Int64.ofInt_add, Int64.ofInt_toInt,
    Int64.ofInt_eq_ofNat, UInt64.toInt64_ofNat']

-- ============================================================== the result

section Bounds

variable {x y : Float} {lo hi : Int64}

/-- A signed word holds what a double becomes. -/
theorem toInt_ofInt_toWord (whole : Bool → ℕ → ℤ → ℤ) (x : Float) :
    (Int64.ofInt (Binary64.toWord whole x)).toInt = Binary64.toWord whole x := by
  obtain ⟨hleast, hgreatest⟩ := Binary64.toWord_mem whole x
  unfold Binary64.minWord at hleast
  unfold Binary64.maxWord at hgreatest
  exact Int64.toInt_ofInt_of_le (by omega) (by omega)

theorem whole_of_lt (hlo : lo.toInt = Binary64.ceilWord x) (hhi : hi.toInt = Binary64.floorWord y)
    (h : lo < hi) {k : ℕ} {g' : Random} (hbelow : g.below (hi.toInt - lo.toInt).toNat = (k, g')) :
    g.whole x y = (lo.toInt + k, g') := by
  rw [Int64.lt_iff_toInt_lt] at h
  unfold whole
  rw [← hlo, ← hhi]
  refine (if_neg (Int.not_le.2 h)).trans ?_
  rw [hbelow]

/-- A draw has one result, which is between the bounds. -/
theorem exists_whole_eq (hlo : lo.toInt = Binary64.ceilWord x)
    (hhi : hi.toInt = Binary64.floorWord y) (h : lo < hi) (g : Random) :
    ∃ n g', g.whole x y = (n.toInt, g') ∧ lo ≤ n ∧ n < hi
      ∧ ∀ r, Between lo (hi - 1) g r ↔ r = (n, g') := by
  have hresult := between_iff h g
  cases hbelow : g.below (hi.toInt - lo.toInt).toNat with
  | mk k g' =>
      have hwhole := whole_of_lt hlo hhi h hbelow
      rw [Int64.lt_iff_toInt_lt] at h
      have hleast := lo.le_toInt
      have hgreatest := hi.toInt_lt
      have hlength : (hi.toInt - lo.toInt).toNat < UInt64.size := by
        unfold UInt64.size
        omega
      have hlt := g.below_lt (n := (hi.toInt - lo.toInt).toNat) (by omega) hlength
      rw [hbelow] at hresult hlt
      have hn : (Int64.ofInt (lo.toInt + k)).toInt = lo.toInt + k :=
        Int64.toInt_ofInt_of_le (by omega) (by omega)
      refine ⟨.ofInt (lo.toInt + k), g', ?_, ?_, ?_, hresult⟩
      · rw [hn]
        exact hwhole
      · rw [Int64.le_iff_toInt_le, hn]
        omega
      · rw [Int64.lt_iff_toInt_lt, hn]
        omega

end Bounds

/-- **A random whole number is within its bounds**: without a number between them the
answer is the first bound and nothing is drawn; else the draw in words has one result,
which is not below the first bound and below the second. -/
theorem whole_is_within_its_bounds (g : Random) (x y : Float) :
    ∃ lo hi : Int64, Binary64.AsWord Int.ceil (.ofFloat x) lo.toInt
      ∧ Binary64.AsWord Int.floor (.ofFloat y) hi.toInt
      ∧ (hi ≤ lo → g.whole x y = (lo.toInt, g))
      ∧ (lo < hi → ∃ n g', g.whole x y = (n.toInt, g') ∧ lo ≤ n ∧ n < hi
          ∧ ∀ r, Between lo (hi - 1) g r ↔ r = (n, g')) := by
  have hlo : (Int64.ofInt (Binary64.ceilWord x)).toInt = Binary64.ceilWord x :=
    toInt_ofInt_toWord _ x
  have hhi : (Int64.ofInt (Binary64.floorWord y)).toInt = Binary64.floorWord y :=
    toInt_ofInt_toWord _ y
  refine ⟨.ofInt (Binary64.ceilWord x), .ofInt (Binary64.floorWord y), ?_, ?_, ?_, ?_⟩
  · rw [hlo]
    exact Binary64.asWord_ceilWord x
  · rw [hhi]
    exact Binary64.asWord_floorWord y
  · intro hempty
    rw [Int64.le_iff_toInt_le, hlo, hhi] at hempty
    rw [hlo]
    exact g.whole_of_le hempty
  · exact fun hsome => exists_whole_eq hlo hhi hsome g

/-- Between the infinities lie all words, and the greatest of them is never drawn. -/
theorem infinities_bound_all_words :
    Binary64.ofFloat (-1.0 / 0.0) = .infinite true ∧ Binary64.ofFloat (1.0 / 0.0) = .infinite false
      ∧ Int64.minValue < Int64.maxValue
      ∧ ∃ n g', (⟨42⟩ : Random).whole (-1.0 / 0.0) (1.0 / 0.0) = (n.toInt, g')
        ∧ n < .maxValue ∧ ∀ r, Between .minValue (.maxValue - 1) ⟨42⟩ r ↔ r = (n, g') := by
  have hleast : Binary64.ofFloat (-1.0 / 0.0) = .infinite true := by decide +kernel
  have hgreatest : Binary64.ofFloat (1.0 / 0.0) = .infinite false := by decide +kernel
  have horder : Int64.minValue < Int64.maxValue := by decide
  obtain ⟨lo, hi, hlo, hhi, -, hsome⟩ := whole_is_within_its_bounds ⟨42⟩ (-1.0 / 0.0) (1.0 / 0.0)
  rw [hleast] at hlo
  rw [hgreatest] at hhi
  have hloMin : lo = .minValue := by
    refine Int64.toInt_inj.1 ?_
    generalize lo.toInt = n at hlo
    cases hlo
    decide
  have hhiMax : hi = .maxValue := by
    refine Int64.toInt_inj.1 ?_
    generalize hi.toInt = n at hhi
    cases hhi
    decide
  rw [hloMin, hhiMax] at hsome
  obtain ⟨n, g', hwhole, -, hn, hresult⟩ := hsome horder
  exact ⟨hleast, hgreatest, horder, n, g', hwhole, hn, hresult⟩

end Stagecraft.Random
