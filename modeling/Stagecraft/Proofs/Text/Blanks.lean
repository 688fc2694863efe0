/-
Texts without the blanks at their ends.

Trimming is stripping both ends of all characters of a kind. What it leaves
is bare: neither end is of the kind any more, and nothing more happens to a
text that is bare already. Conversely a text is what stripping leaves of it,
with characters of the kind before and behind (`exists_padding`), and that
is how the other laws come about: padding does not count, so it may be left
away before a text is cut at its first character of another kind.
-/
import Mathlib.Data.List.TakeWhile
import Stagecraft.Text.Blank

namespace Stagecraft.Text

variable {p q : Char → Bool}

-- =============================================================== padding

theorem strip_append_left {before : List Char} (h : ∀ c ∈ before, p c = true) (cs : List Char) :
    strip p (before ++ cs) = strip p cs := by
  unfold strip
  rw [List.dropWhile_append_of_pos h]

theorem strip_append_right {behind : List Char} (h : ∀ c ∈ behind, p c = true) (cs : List Char) :
    strip p (cs ++ behind) = strip p cs := by
  unfold strip
  rw [List.dropWhile_append]
  split
  next hall =>
      rw [List.dropWhile_eq_nil_iff.2 h, List.isEmpty_iff.1 hall]
  next =>
      have hbehind : ∀ c ∈ behind.reverse, p c = true := fun c hc => h c (List.mem_reverse.1 hc)
      rw [List.reverse_append, List.dropWhile_append_of_pos hbehind]

/-- What stands around a text of characters of the kind does not count. -/
theorem strip_padded {before behind : List Char} (hbefore : ∀ c ∈ before, p c = true)
    (hbehind : ∀ c ∈ behind, p c = true) (cs : List Char) :
    strip p (before ++ cs ++ behind) = strip p cs :=
  (strip_append_right hbehind _).trans (strip_append_left hbefore cs)

/-- No character of ASCII that can be seen is blank. -/
theorem not_isBlank_of_visible {c : Char} (h : 33 ≤ c.toNat ∧ c.toNat ≤ 126) :
    isBlank c = false := by
  unfold isBlank inRanges blankRanges
  simp only [List.any_cons, List.any_nil, Bool.or_false, Bool.or_eq_false_iff,
    decide_eq_false_iff_not]
  omega

/-- What is blank around the text does not count. -/
theorem trim_padded {before behind : List Char} (hbefore : ∀ c ∈ before, isBlank c = true)
    (hbehind : ∀ c ∈ behind, isBlank c = true) (cs : List Char) :
    trim (before ++ cs ++ behind) = trim cs :=
  strip_padded hbefore hbehind cs

-- ============================================================= bare texts

/-- Neither end is of the kind. -/
def Bare (p : Char → Bool) (cs : List Char) : Prop :=
  (∀ c ∈ cs.head?, p c = false) ∧ ∀ c ∈ cs.getLast?, p c = false

theorem bare_reverse {cs : List Char} (h : Bare p cs) : Bare p cs.reverse := by
  unfold Bare
  rw [List.head?_reverse, List.getLast?_reverse]
  exact ⟨h.2, h.1⟩

theorem dropWhile_of_head? {cs : List Char} (h : ∀ c ∈ cs.head?, p c = false) :
    cs.dropWhile p = cs := by
  cases cs with
  | nil => rfl
  | cons c cs => exact List.dropWhile_cons_of_neg (Bool.eq_false_iff.1 (h c rfl))

/-- A bare text stays as it is. -/
theorem strip_of_bare {cs : List Char} (h : Bare p cs) : strip p cs = cs := by
  unfold strip
  rw [dropWhile_of_head? h.1, dropWhile_of_head? (bare_reverse h).1, List.reverse_reverse]

theorem head?_dropWhile {cs : List Char} {c : Char} (hc : c ∈ (cs.dropWhile p).head?) :
    p c = false := by
  have hfirst := List.head?_dropWhile_not p cs
  rw [Option.mem_def.1 hc] at hfirst
  exact hfirst

/-- A text has characters of the kind behind a part that does not end in one. -/
theorem exists_behind (p : Char → Bool) (cs : List Char) : ∃ body behind, cs = body ++ behind
    ∧ (∀ c ∈ behind, p c = true) ∧ ∀ c ∈ body.getLast?, p c = false := by
  refine ⟨(cs.reverse.dropWhile p).reverse, (cs.reverse.takeWhile p).reverse, ?_, ?_, ?_⟩
  · rw [← List.reverse_append, List.takeWhile_append_dropWhile, List.reverse_reverse]
  · intro c hc
    exact List.mem_takeWhile_imp (List.mem_reverse.1 hc)
  · intro c hc
    rw [List.getLast?_reverse] at hc
    exact head?_dropWhile hc

/-- A text is what stripping leaves of it, in the midst of characters of the kind. -/
theorem exists_padding (p : Char → Bool) (cs : List Char) : ∃ before behind,
    (∀ c ∈ before, p c = true) ∧ (∀ c ∈ behind, p c = true) ∧ Bare p (strip p cs)
      ∧ cs = before ++ strip p cs ++ behind := by
  obtain ⟨body, behind, hsplit, hbehind, hlast⟩ := exists_behind p (cs.dropWhile p)
  have hbare : Bare p body := by
    refine ⟨fun c hc => @head?_dropWhile p cs c ?_, hlast⟩
    rw [hsplit, List.head?_append, Option.mem_def.1 hc]
    rfl
  have hcs : cs = cs.takeWhile p ++ body ++ behind := by
    rw [List.append_assoc, ← hsplit, List.takeWhile_append_dropWhile]
  have hbefore : ∀ c ∈ cs.takeWhile p, p c = true := fun c hc => List.mem_takeWhile_imp hc
  have hstrip : strip p cs = body := by
    calc strip p cs = strip p (cs.takeWhile p ++ body ++ behind) := congrArg (strip p) hcs
      _ = body := (strip_padded hbefore hbehind body).trans (strip_of_bare hbare)
  rw [hstrip]
  exact ⟨_, behind, hbefore, hbehind, hbare, hcs⟩

theorem strip_eq_self_iff {cs : List Char} : strip p cs = cs ↔ Bare p cs := by
  constructor
  · intro h
    obtain ⟨-, -, -, -, hbare, -⟩ := exists_padding p cs
    rwa [h] at hbare
  · exact strip_of_bare

theorem length_strip_le (p : Char → Bool) (cs : List Char) : (strip p cs).length ≤ cs.length := by
  obtain ⟨before, behind, -, -, -, hcs⟩ := exists_padding p cs
  have hlength := congrArg List.length hcs
  rw [List.length_append, List.length_append] at hlength
  omega

-- ================================================================ cutting

/-- A cut at the first character that is not of a wider kind may be made before
stripping or after it. -/
theorem strip_takeWhile_strip (h : ∀ c, p c = true → q c = true) (cs : List Char) :
    strip p ((strip p cs).takeWhile q) = strip p (cs.takeWhile q) := by
  obtain ⟨before, behind, hbefore, hbehind, -, hcs⟩ := exists_padding p cs
  generalize strip p cs = mid at hcs
  rw [hcs, List.append_assoc, List.takeWhile_append_of_pos fun c hc => h c (hbefore c hc),
    strip_append_left hbefore, List.takeWhile_append]
  split
  next hall =>
      rw [(List.takeWhile_prefix q).eq_of_length hall,
        List.takeWhile_eq_self_iff.2 fun c hc => h c (hbehind c hc), strip_append_right hbehind]
  next => rfl

/-- A bare text stays whole in front of any other. -/
theorem exists_strip_append {front : List Char} (hne : front ≠ []) (h : Bare p front)
    (cs : List Char) :
    ∃ body, strip p (front ++ cs) = front ++ body ∧ strip p body = strip p cs := by
  obtain ⟨body, behind, rfl, hbehind, hlast⟩ := exists_behind p cs
  refine ⟨body, ?_, (strip_append_right hbehind body).symm⟩
  rw [← List.append_assoc, strip_append_right hbehind]
  refine strip_of_bare ⟨?_, ?_⟩
  · intro c hc
    obtain ⟨d, front, rfl⟩ := List.exists_cons_of_ne_nil hne
    exact h.1 c hc
  · intro c hc
    rw [List.getLast?_append] at hc
    cases hbody : body.getLast? with
    | none =>
        rw [hbody] at hc
        exact h.2 c hc
    | some d =>
        rw [hbody] at hc
        exact hlast c (hbody.trans hc)

end Stagecraft.Text
