/-
Sets of characters, as ranges of code points in ascending order.

The ranges of a set do not overlap, and such that touch are one. `mem_insert`
and `mem_union` say what a set holds after a range or another set is put in,
and `mem_complement` what the complement holds.
-/
import Stagecraft.Text.Blank

namespace Stagecraft

/-- Ranges of code points, both ends included. -/
abbrev CharSet := List (Nat × Nat)

namespace CharSet

open Text (inRanges)

/-- The greatest code point. -/
def last : Nat := 0x10FFFF

def mem (s : CharSet) (c : Char) : Bool := inRanges s c.toNat

/-- The set of one character. -/
def single (c : Char) : CharSet := [(c.toNat, c.toNat)]

/-- The set with one more range, which is joined with those that it touches. -/
def insert (r : Nat × Nat) : CharSet → CharSet
  | [] => [r]
  | s :: rest =>
    if r.2 + 1 < s.1 then r :: s :: rest
    else if s.2 + 1 < r.1 then s :: insert r rest
    else insert (min r.1 s.1, max r.2 s.2) rest

def union (s t : CharSet) : CharSet := s.foldr insert t

/-- What the ranges leave out from `n` on. -/
def gaps (n : Nat) : CharSet → CharSet
  | [] => if n ≤ last then [(n, last)] else []
  | r :: rest => (if n < r.1 then [(n, r.1 - 1)] else []) ++ gaps (r.2 + 1) rest

def complement (s : CharSet) : CharSet := gaps 0 s

def inter (s t : CharSet) : CharSet := complement (union (complement s) (complement t))

def diff (s t : CharSet) : CharSet := inter s (complement t)

/-- What is in one of two sets but not in both. -/
def symmDiff (s t : CharSet) : CharSet := union (diff s t) (diff t s)

/-- The part of a range that lies in another one, moved by the distance from `first` to
`new`. -/
def moved (first last new : Nat) (r : Nat × Nat) : CharSet :=
  let lo := max r.1 first
  let hi := min r.2 last
  if lo ≤ hi then [(lo - first + new, hi - first + new)] else []

/-- The set with both cases of the letters of ASCII in it. -/
def withCases (s : CharSet) : CharSet :=
  union (s.flatMap fun r => moved 0x41 0x5A 0x61 r ++ moved 0x61 0x7A 0x41 r) s

/-- Whether all characters of the set are of ASCII. -/
def isAscii (s : CharSet) : Bool := s.all fun r => decide (r.2 < 0x80)

-- =========================================================== membership

variable {n : Nat}

theorem inRanges_cons (r : Nat × Nat) (s : CharSet) :
    inRanges (r :: s) n = (decide (r.1 ≤ n ∧ n ≤ r.2) || inRanges s n) := rfl

theorem inRanges_nil : inRanges [] n = false := rfl

theorem inRanges_append (s t : CharSet) :
    inRanges (s ++ t) n = (inRanges s n || inRanges t n) := by
  simp [inRanges]

/-- The set with a range holds the range, and what it held. -/
theorem mem_insert (s : CharSet) (r : Nat × Nat) (hr : r.1 ≤ r.2) (hs : ∀ q ∈ s, q.1 ≤ q.2) :
    inRanges (insert r s) n = (decide (r.1 ≤ n ∧ n ≤ r.2) || inRanges s n) := by
  induction s generalizing r with
  | nil => rfl
  | cons q rest ih =>
    have hq : q.1 ≤ q.2 := hs q (by simp)
    have hrest : ∀ p ∈ rest, p.1 ≤ p.2 := fun p hp => hs p (by simp [hp])
    simp only [insert]
    split
    · rfl
    · split
      · rw [inRanges_cons, ih r hr hrest, inRanges_cons]
        cases decide (r.1 ≤ n ∧ n ≤ r.2) <;> cases decide (q.1 ≤ n ∧ n ≤ q.2) <;> rfl
      · rw [ih _ (by simp only; omega) hrest, inRanges_cons, ← Bool.or_assoc]
        congr 1
        rw [← Bool.decide_or]
        exact decide_eq_decide.2 (by simp only; omega)

theorem le_of_mem_insert {s : CharSet} {r : Nat × Nat} (hr : r.1 ≤ r.2)
    (hs : ∀ q ∈ s, q.1 ≤ q.2) : ∀ q ∈ insert r s, q.1 ≤ q.2 := by
  induction s generalizing r with
  | nil => simpa [insert] using hr
  | cons p rest ih =>
    have hp : p.1 ≤ p.2 := hs p (by simp)
    have hrest : ∀ q ∈ rest, q.1 ≤ q.2 := fun q hq => hs q (by simp [hq])
    simp only [insert]
    split
    · intro q hq
      rcases List.mem_cons.1 hq with rfl | hq
      · exact hr
      · exact hs q hq
    · split
      · intro q hq
        rcases List.mem_cons.1 hq with rfl | hq
        · exact hp
        · exact ih hr hrest q hq
      · exact ih (by simp only; omega) hrest

/-- The union holds what either set holds. -/
theorem mem_union (s t : CharSet) (hs : ∀ q ∈ s, q.1 ≤ q.2) (ht : ∀ q ∈ t, q.1 ≤ q.2) :
    inRanges (union s t) n = (inRanges s n || inRanges t n) ∧ ∀ q ∈ union s t, q.1 ≤ q.2 := by
  induction s with
  | nil => exact ⟨rfl, ht⟩
  | cons r rest ih =>
    have hr : r.1 ≤ r.2 := hs r (by simp)
    obtain ⟨hmem, hle⟩ := ih fun q hq => hs q (by simp [hq])
    refine ⟨?_, le_of_mem_insert hr hle⟩
    rw [show union (r :: rest) t = insert r (union rest t) from rfl, mem_insert _ _ hr hle, hmem,
      inRanges_cons, Bool.or_assoc]

/-- What begins in ascending order goes on so, and the next range does not touch. -/
theorem ascending_tail {r : Nat × Nat} {rest : CharSet} (h : Text.ascending (r :: rest) = true) :
    r.1 ≤ r.2 ∧ Text.ascending rest = true ∧ ∀ q ∈ rest.head?, r.2 + 1 < q.1 := by
  cases rest with
  | nil => simpa [Text.ascending] using h
  | cons q rest =>
    simp only [Text.ascending, Bool.and_eq_true, decide_eq_true_eq] at h
    exact ⟨h.1.1, h.2, by simpa using h.1.2⟩

/-- What lies before the first range lies in none. -/
theorem inRanges_eq_false {s : CharSet} (hs : Text.ascending s = true)
    (hn : ∀ q ∈ s.head?, n < q.1) : inRanges s n = false := by
  induction s with
  | nil => rfl
  | cons r rest ih =>
    obtain ⟨hr, hrest, hnext⟩ := ascending_tail hs
    have hnr : n < r.1 := hn r (by simp)
    rw [inRanges_cons, ih hrest fun q hq => by have := hnext q hq; omega]
    simp; omega

/-- The gaps hold what lies in no range, from the first code point that is asked for. -/
theorem mem_gaps (s : CharSet) (m : Nat) (hs : Text.ascending s = true)
    (hm : ∀ q ∈ s.head?, m ≤ q.1) (hn : n ≤ last) :
    inRanges (gaps m s) n = (decide (m ≤ n) && !inRanges s n) := by
  induction s generalizing m with
  | nil =>
    by_cases h : m ≤ last
    · simp [gaps, h, inRanges, hn]
    · have : ¬m ≤ n := by omega
      simp [gaps, h, inRanges, this]
  | cons r rest ih =>
    obtain ⟨hr, hrest, hnext⟩ := ascending_tail hs
    have hmr : m ≤ r.1 := hm r (by simp)
    rw [gaps, inRanges_append, ih (r.2 + 1) hrest fun q hq => by have := hnext q hq; omega,
      inRanges_cons]
    by_cases hlt : n < r.1
    · have hout : inRanges rest n = false :=
        inRanges_eq_false hrest fun q hq => by have := hnext q hq; omega
      have h1 : ¬r.2 + 1 ≤ n := by omega
      have h2 : ¬r.1 ≤ n := by omega
      by_cases h : m < r.1
      · have h3 : n ≤ r.1 - 1 := by omega
        simp [hout, inRanges_cons, inRanges_nil, h, h1, h2, h3]
      · have h3 : ¬m ≤ n := by omega
        simp [hout, inRanges_nil, h, h1, h2, h3]
    · have hfirst : inRanges (if m < r.1 then [(m, r.1 - 1)] else []) n = false := by
        split
        · have h3 : ¬n ≤ r.1 - 1 := by omega
          simp [inRanges_cons, inRanges_nil, h3]
        · rfl
      have hmn : m ≤ n := by omega
      have hrn : r.1 ≤ n := by omega
      rw [hfirst]
      by_cases hle : n ≤ r.2
      · have : ¬r.2 + 1 ≤ n := by omega
        simp [hle, hrn, this]
      · have : r.2 + 1 ≤ n := by omega
        simp [hle, hmn, this]

/-- The complement holds what the set does not. -/
theorem mem_complement (s : CharSet) (hs : Text.ascending s = true) (c : Char) :
    (complement s).mem c = !s.mem c := by
  have hc : c.toNat ≤ last := by
    rcases c.valid with h | ⟨-, h⟩
    · have : c.toNat < 0xD800 := h
      simp only [last]; omega
    · have : c.toNat < 0x110000 := h
      simp only [last]; omega
  have := mem_gaps s 0 hs (by simp) hc
  simpa [mem, complement] using this

end CharSet

end Stagecraft
