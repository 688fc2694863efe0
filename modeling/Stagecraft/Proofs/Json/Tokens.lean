/-
Numbers, strings and words of JSON inside of longer text.

A value ends where a blank, a comma, a colon, a closing bracket or nothing at
all stands behind it. With such a rest behind it every scanner of a single
token finds what it finds without the rest, and leaves the rest.
-/
import Mathlib.Data.List.DropRight
import Mathlib.Data.List.TakeDrop
import Stagecraft.Json.Value

namespace Stagecraft.Json

-- ======================================================= where values end

/-- Whether a character may follow a value. -/
def endsValue (c : Char) : Bool :=
  isBlank c || c == ',' || c == ':' || c == ']' || c == '\x7d'

/-- A text that may follow a value. -/
def Stops (rest : List Char) : Prop := ∀ c ∈ rest.head?, endsValue c = true

/-- A scanner that leaves what follows a value, and does not see it. -/
def Extends {α : Type} (scan : List Char → Option (α × List Char)) : Prop :=
  ∀ cs a r rest, Stops rest → scan cs = some (a, r) → scan (cs ++ rest) = some (a, r ++ rest)

theorem endsValue_cases {c : Char} (h : endsValue c = true) :
    c = ' ' ∨ c = '\n' ∨ c = '\t' ∨ c = '\r' ∨ c = ',' ∨ c = ':' ∨ c = ']' ∨ c = '\x7d' := by
  simpa [endsValue, isBlank, or_assoc] using h

theorem Stops.nil : Stops [] := fun _ h => nomatch h

theorem stops_cons {c : Char} {rest : List Char} : Stops (c :: rest) ↔ endsValue c = true := by
  simp [Stops]

theorem not_isDigit_of_endsValue {c : Char} (h : endsValue c = true) : c.isDigit = false := by
  rcases endsValue_cases h with rfl | rfl | rfl | rfl | rfl | rfl | rfl | rfl <;> decide

/-- What no end of a value begins with does not begin behind a value. -/
theorem Stops.head?_append {rest : List Char} (hrest : Stops rest) {p : Char → Prop}
    (hp : ∀ c, endsValue c = true → p c) {cs : List Char} (hcs : ∀ c ∈ cs.head?, p c) :
    ∀ c ∈ (cs ++ rest).head?, p c := by
  cases cs with
  | nil => exact fun c hc => hp c (hrest c hc)
  | cons c cs => exact hcs

theorem head_cases (p : Char → Prop) (cs : List Char) :
    (∀ c ∈ cs.head?, ¬ p c) ∨ ∃ c r, p c ∧ cs = c :: r := by
  cases cs with
  | nil => exact .inl fun _ h => nomatch h
  | cons c r =>
    by_cases hc : p c
    · exact .inr ⟨c, r, hc, rfl⟩
    · exact .inl (by simpa using hc)

-- ================================================================ numbers

/-- A run of digits stops where a value may end. -/
theorem span_append {rest : List Char} (hrest : Stops rest) (cs : List Char) :
    (cs ++ rest).span Char.isDigit
      = ((cs.span Char.isDigit).1, (cs.span Char.isDigit).2 ++ rest) := by
  simp only [List.span_eq_takeWhile_dropWhile]
  induction cs with
  | nil =>
    cases rest with
    | nil => rfl
    | cons c rest =>
      simp [not_isDigit_of_endsValue (stops_cons.1 hrest)]
  | cons c cs ih =>
    rw [Prod.mk.injEq] at ih
    cases hc : c.isDigit <;> simp [hc, ih.1, ih.2]

/-- At least one digit. -/
def digitRun (cs : List Char) : Option (List Char × List Char) :=
  let (ds, rest) := cs.span Char.isDigit
  if ds.isEmpty then none else some (ds, rest)

theorem digitRun_extends : Extends digitRun := by
  intro cs ds r rest hrest h
  unfold digitRun at h ⊢
  rw [span_append hrest]
  dsimp only at h ⊢
  rw [Option.ite_none_left_eq_some] at h
  obtain ⟨hne, h⟩ := h
  cases h
  rw [if_neg hne]

theorem scanWhole_zero {cs ds r : List Char} :
    scanWhole ('0' :: cs) = some (ds, r)
      ↔ (∀ c ∈ cs.head?, c.isDigit = false) ∧ ['0'] = ds ∧ cs = r := by
  cases cs with
  | nil => simp [scanWhole]
  | cons c cs => simp [scanWhole]

theorem scanWhole_cons {c : Char} (hc : c ≠ '0') (cs : List Char) :
    scanWhole (c :: cs) = digitRun (c :: cs) := by
  unfold scanWhole
  split
  · next h => exact absurd (List.cons.inj h).1 hc
  · rfl

theorem scanWhole_extends : Extends scanWhole := by
  intro cs ds r rest hrest h
  cases cs with
  | nil => cases h
  | cons c cs =>
    by_cases hc : c = '0'
    · subst hc
      obtain ⟨hhead, rfl, rfl⟩ := scanWhole_zero.1 h
      exact scanWhole_zero.2
        ⟨hrest.head?_append (fun _ => not_isDigit_of_endsValue) hhead, rfl, rfl⟩
    · rw [scanWhole_cons hc] at h
      rw [List.cons_append, scanWhole_cons hc]
      exact digitRun_extends _ _ _ _ hrest h

theorem scanFraction_of_ne {cs : List Char} (hcs : ∀ c ∈ cs.head?, c ≠ '.') :
    scanFraction cs = some ([], cs) := by
  unfold scanFraction
  split
  · exact absurd rfl (hcs '.' rfl)
  · rfl

theorem scanFraction_extends : Extends scanFraction := by
  intro cs ds r rest hrest h
  rcases head_cases (· = '.') cs with hcs | ⟨_, cs, rfl, rfl⟩
  · rw [scanFraction_of_ne hcs] at h
    cases h
    exact scanFraction_of_ne (hrest.head?_append (fun c hc => by rintro rfl; cases hc) hcs)
  · exact digitRun_extends _ _ _ _ hrest h

theorem scanSign_of_ne {cs : List Char} (hcs : ∀ c ∈ cs.head?, ¬(c = '-' ∨ c = '+')) :
    Numeral.scanSign cs = (false, cs) := by
  unfold Numeral.scanSign
  split
  · exact absurd (.inl rfl) (hcs '-' rfl)
  · exact absurd (.inr rfl) (hcs '+' rfl)
  · rfl

theorem scanSign_append {rest : List Char} (hrest : Stops rest) (cs : List Char) :
    Numeral.scanSign (cs ++ rest)
      = ((Numeral.scanSign cs).1, (Numeral.scanSign cs).2 ++ rest) := by
  rcases head_cases (fun c => c = '-' ∨ c = '+') cs with hcs | ⟨c, cs, hc, rfl⟩
  · rw [scanSign_of_ne hcs]
    exact scanSign_of_ne
      (hrest.head?_append (fun c hc => by rintro (rfl | rfl) <;> cases hc) hcs)
  · rcases hc with rfl | rfl <;> rfl

theorem scanExponent_of_ne {cs : List Char} (hcs : ∀ c ∈ cs.head?, ¬(c = 'e' ∨ c = 'E')) :
    Numeral.scanExponent cs = some (0, cs) := by
  cases cs with
  | nil => rfl
  | cons c cs => exact if_neg (hcs c rfl)

theorem scanExponent_cons {c : Char} (hc : c = 'e' ∨ c = 'E') (cs : List Char) :
    Numeral.scanExponent (c :: cs) = (digitRun (Numeral.scanSign cs).2).map fun p =>
      (Binary64.signed (Numeral.scanSign cs).1 (Decimal.ofDigits p.1), p.2) := by
  unfold Numeral.scanExponent digitRun
  dsimp only
  rw [if_pos hc]
  split <;> rfl

theorem scanExponent_extends : Extends Numeral.scanExponent := by
  intro cs n r rest hrest h
  rcases head_cases (fun c => c = 'e' ∨ c = 'E') cs with hcs | ⟨c, cs, hc, rfl⟩
  · rw [scanExponent_of_ne hcs] at h
    cases h
    exact scanExponent_of_ne
      (hrest.head?_append (fun c hc => by rintro (rfl | rfl) <;> cases hc) hcs)
  · rw [scanExponent_cons hc, Option.map_eq_some_iff] at h
    obtain ⟨⟨ds, r'⟩, hrun, h⟩ := h
    cases h
    rw [List.cons_append, scanExponent_cons hc, scanSign_append hrest,
      digitRun_extends _ _ _ _ hrest hrun]
    rfl

/-- A number after its sign. -/
def scanUnsigned (negative : Bool) (cs : List Char) : Option (Number × List Char) := do
  let (whole, r) ← scanWhole cs
  let (fraction, r) ← scanFraction r
  let (power, r) ← Numeral.scanExponent r
  some (⟨negative, whole, fraction, power⟩, r)

theorem scanUnsigned_eq_some {negative : Bool} {cs r : List Char} {n : Number} :
    scanUnsigned negative cs = some (n, r) ↔
      ∃ r₁ r₂, scanWhole cs = some (n.whole, r₁) ∧ scanFraction r₁ = some (n.fraction, r₂) ∧
        Numeral.scanExponent r₂ = some (n.power, r) ∧ negative = n.negative := by
  unfold scanUnsigned
  simp only [Option.bind_eq_bind, Option.bind_eq_some_iff, Prod.exists]
  constructor
  · rintro ⟨whole, r₁, hwhole, fraction, r₂, hfraction, power, r₃, hpower, h⟩
    cases h
    exact ⟨r₁, r₂, hwhole, hfraction, hpower, rfl⟩
  · rintro ⟨r₁, r₂, hwhole, hfraction, hpower, rfl⟩
    exact ⟨_, r₁, hwhole, _, r₂, hfraction, _, r, hpower, rfl⟩

theorem scanUnsigned_extends (negative : Bool) : Extends (scanUnsigned negative) := by
  intro cs n r rest hrest h
  obtain ⟨r₁, r₂, hwhole, hfraction, hpower, hnegative⟩ := scanUnsigned_eq_some.1 h
  exact scanUnsigned_eq_some.2 ⟨r₁ ++ rest, r₂ ++ rest, scanWhole_extends _ _ _ _ hrest hwhole,
    scanFraction_extends _ _ _ _ hrest hfraction, scanExponent_extends _ _ _ _ hrest hpower,
    hnegative⟩

theorem scanNumber_of_ne {cs : List Char} (hcs : ∀ c ∈ cs.head?, c ≠ '-') :
    scanNumber cs = scanUnsigned false cs := by
  unfold scanNumber
  split
  next heq =>
    split at heq
    · exact absurd rfl (hcs '-' rfl)
    · cases heq
      rfl

theorem scanNumber_extends : Extends scanNumber := by
  intro cs n r rest hrest h
  rcases head_cases (· = '-') cs with hcs | ⟨_, cs, rfl, rfl⟩
  · rw [scanNumber_of_ne hcs] at h
    rw [scanNumber_of_ne (hrest.head?_append (fun c hc => by rintro rfl; cases hc) hcs)]
    exact scanUnsigned_extends _ _ _ _ _ hrest h
  · exact scanUnsigned_extends _ _ _ _ _ hrest h

theorem head_of_digitRun {cs ds r : List Char} (h : digitRun cs = some (ds, r)) :
    ∃ c cs', cs = c :: cs' ∧ c.isDigit = true := by
  cases cs with
  | nil => cases h
  | cons c cs =>
    refine ⟨c, cs, rfl, ?_⟩
    cases hc : c.isDigit with
    | true => rfl
    | false => simp [digitRun, hc] at h

theorem head_of_scanWhole {cs ds r : List Char} (h : scanWhole cs = some (ds, r)) :
    ∃ c cs', cs = c :: cs' ∧ c.isDigit = true := by
  cases cs with
  | nil => cases h
  | cons c cs =>
    by_cases hc : c = '0'
    · exact ⟨c, cs, rfl, hc ▸ rfl⟩
    · rw [scanWhole_cons hc] at h
      exact head_of_digitRun h

theorem head_of_scanNumber {cs r : List Char} {n : Number} (h : scanNumber cs = some (n, r)) :
    ∃ c cs', cs = c :: cs' ∧ (c = '-' ∨ c.isDigit = true) := by
  rcases head_cases (· = '-') cs with hcs | ⟨_, cs, rfl, rfl⟩
  · rw [scanNumber_of_ne hcs] at h
    obtain ⟨_, _, hwhole, -⟩ := scanUnsigned_eq_some.1 h
    obtain ⟨c, cs, hcs, hdigit⟩ := head_of_scanWhole hwhole
    exact ⟨c, cs, hcs, .inr hdigit⟩
  · exact ⟨_, cs, rfl, .inl rfl⟩

-- ================================================================ strings

theorem scanUnit_extends : Extends scanUnit := by
  intro cs u r rest _ h
  unfold scanUnit at h
  split at h
  · next a b c d r' =>
    simp only [Option.bind_eq_bind, Option.bind_eq_some_iff] at h
    obtain ⟨na, ha, nb, hb, nc, hc, nd, hd, h⟩ := h
    cases h
    simp [scanUnit, ha, hb, hc, hd]
  · cases h

theorem escape_append {cs rest r : List Char} (hrest : Stops rest)
    (h : cs ++ rest = '\\' :: 'u' :: r) : ∃ r', cs = '\\' :: 'u' :: r' := by
  match cs with
  | [] =>
    obtain rfl : rest = _ := h
    cases stops_cons.1 hrest
  | [c] =>
    obtain rfl : rest = _ := (List.cons.inj h).2
    cases stops_cons.1 hrest
  | c :: d :: cs =>
    cases h
    exact ⟨cs, rfl⟩

/-- An escaped unit does not look behind the end of a value for a second one. -/
theorem scanEscapedUnit_extends : Extends scanEscapedUnit := by
  intro cs u r rest hrest h
  unfold scanEscapedUnit at h ⊢
  rw [Option.bind_eq_some_iff] at h
  obtain ⟨⟨high, r'⟩, hunit, h⟩ := h
  rw [scanUnit_extends _ _ _ _ hrest hunit, Option.bind_some]
  dsimp only at h ⊢
  split at h
  · next hhigh =>
    rw [if_pos hhigh]
    split at h
    · next r'' =>
      rw [Option.map_eq_some_iff] at h
      obtain ⟨⟨low, r₂⟩, hlow, h⟩ := h
      show (scanUnit (r'' ++ rest)).map _ = _
      rw [scanUnit_extends _ _ _ _ hrest hlow, Option.map_some]
      dsimp only at h ⊢
      split at h <;> cases h
      · next hl => rw [if_pos hl]
      · next hl => rw [if_neg hl, List.cons_append, List.cons_append]
    · next hnot =>
      cases h
      split
      · next heq =>
        obtain ⟨_, rfl⟩ := escape_append hrest heq
        exact absurd rfl (hnot _)
      · rfl
  · next hhigh =>
    rw [if_neg hhigh]
    split at h <;> cases h
    · next hl => rw [if_pos hl]
    · next hl => rw [if_neg hl]

/-- A character that is no control and begins no escape stands for itself. -/
theorem scanChar_plain {c : Char} (hlow : ¬c.toNat < 0x20) (hslash : c ≠ '\\')
    (r : List Char) : scanChar (c :: r) = some (some c, r) := by
  unfold scanChar
  split
  · next heq => exact absurd (List.cons.inj heq).1 hslash
  · next heq =>
    cases heq
    exact if_neg (not_or.2 ⟨hlow, hslash⟩)
  · next heq => cases heq

theorem scanChar_extends : Extends scanChar := by
  intro cs c r rest hrest h
  unfold scanChar at h
  split at h
  · next e r' =>
    unfold scanChar
    dsimp only [List.cons_append]
    split at h
    all_goals first | exact scanEscapedUnit_extends _ _ _ _ hrest h | cases h
    all_goals rfl
  · rw [Option.ite_none_left_eq_some, not_or] at h
    obtain ⟨⟨hlow, hslash⟩, h⟩ := h
    cases h
    exact scanChar_plain hlow hslash (r ++ rest)
  · cases h

theorem scanText_of_ne {cs : List Char} (hcs : ∀ c ∈ cs.head?, c ≠ '"') (n : Nat) :
    scanText (n + 1) cs = (scanChar cs).bind fun p => (scanText n p.2).map fun q =>
      (p.1.bind fun c => q.1.map (c :: ·), q.2) := by
  conv_lhs => unfold scanText
  split
  · exact absurd rfl (hcs '"' rfl)
  · cases scanChar cs with
    | none => rfl
    | some p =>
      show (scanText n p.2).bind _ = (scanText n p.2).map _
      cases scanText n p.2 <;> rfl

/-- The fuel of a string is enough for every text that it stands in. -/
theorem scanText_append {rest : List Char} (hrest : Stops rest) {n m : Nat} (hnm : n ≤ m)
    {cs r : List Char} {text : Option (List Char)} (h : scanText n cs = some (text, r)) :
    scanText m (cs ++ rest) = some (text, r ++ rest) := by
  induction n generalizing m cs text r with
  | zero => cases h
  | succ n ih =>
    obtain ⟨m, rfl⟩ := Nat.exists_eq_add_of_le' (Nat.le_of_add_left_le hnm)
    rcases head_cases (· = '"') cs with hcs | ⟨_, cs, rfl, rfl⟩
    · rw [scanText_of_ne hcs, Option.bind_eq_some_iff] at h
      obtain ⟨⟨c, r₁⟩, hchar, h⟩ := h
      obtain ⟨⟨text', r₂⟩, hscan, h⟩ := Option.map_eq_some_iff.1 h
      cases h
      rw [scanText_of_ne (hrest.head?_append (fun c hc => by rintro rfl; cases hc) hcs),
        scanChar_extends _ _ _ _ hrest hchar, Option.bind_some,
        ih (Nat.le_of_succ_le_succ hnm) hscan]
      rfl
    · cases h
      rfl

theorem scanString_extends : Extends scanString := by
  intro cs text r rest hrest h
  unfold scanString at h ⊢
  rw [Option.map_eq_some_iff] at h
  obtain ⟨⟨t, r'⟩, hscan, h⟩ := h
  cases h
  rw [scanText_append hrest (by simp) hscan]
  rfl

-- ================================================================= blanks

@[simp] theorem skipBlank_skipBlank (cs : List Char) : skipBlank (skipBlank cs) = skipBlank cs :=
  List.dropWhile_idempotent _ cs

/-- Blanks are skipped up to the end of a text or up to what follows it. -/
theorem skipBlank_append (cs rest : List Char) :
    skipBlank (cs ++ rest)
      = if (skipBlank cs).isEmpty then skipBlank rest else skipBlank cs ++ rest :=
  List.dropWhile_append

theorem scanWord_extends (word : List Char) (value : Json) : Extends (scanWord word value) := by
  intro cs j r rest _ h
  unfold scanWord at h ⊢
  rw [Option.ite_none_right_eq_some] at h
  obtain ⟨hfront, h⟩ := h
  cases h
  obtain ⟨r, rfl⟩ := List.isPrefixOf_iff_prefix.1 hfront
  simp

end Stagecraft.Json
