/-
JSON values inside of longer text.

What the scanner of values finds is one of a few shapes, and what the scanners
of items and members find begins with a value. With these shapes an induction
on the fuel shows that a value is found the same in front of a comma, a colon, a
closing bracket or a blank, and with more fuel, so that the bound of `read?`
serves every value inside of a text.
-/
import Stagecraft.Proofs.Json.Tokens

namespace Stagecraft.Json

-- ================================================================= values

/-- Blanks before a value, before the items and before the members do not count. -/
@[simp] theorem scanValue_skipBlank (n : Nat) (cs : List Char) :
    scanValue n (skipBlank cs) = scanValue n cs := by
  cases n with
  | zero => rfl
  | succ n => simp only [scanValue, skipBlank_skipBlank]

@[simp] theorem scanItems_skipBlank (n : Nat) (cs : List Char) :
    scanItems n (skipBlank cs) = scanItems n cs := by
  cases n with
  | zero => rfl
  | succ n => simp only [scanItems, scanValue_skipBlank]

@[simp] theorem scanMembers_skipBlank (n : Nat) (cs : List Char) :
    scanMembers n (skipBlank cs) = scanMembers n cs := by
  cases n with
  | zero => rfl
  | succ n => simp only [scanMembers, skipBlank_skipBlank]

/-- A number is scanned as a value, since no value of another kind begins like it. -/
theorem scanValue_of_scanNumber {cs r : List Char} {n : Number}
    (h : scanNumber cs = some (n, r)) (k : Nat) : scanValue (k + 1) cs = some (number n, r) := by
  obtain ⟨c, cs, rfl, hc⟩ := head_of_scanNumber h
  have hother : ∀ d : Char, d ≠ '-' → d.isDigit = false → c ≠ d := by
    rintro d hminus hdigit rfl
    rcases hc with hc | hc
    · exact hminus hc
    · rw [hdigit] at hc
      cases hc
  have hblank : skipBlank (c :: cs) = c :: cs := by
    refine List.dropWhile_cons_of_neg ?_
    simp [isBlank, hother]
  unfold scanValue
  rw [hblank]
  split
  all_goals first
    | exact absurd (List.cons.inj ‹_›).1 (hother _ (by decide) (by decide))
    | rw [h]; rfl

/-- The words that are values: their first letters, their other letters, and what
they stand for. -/
def words : List (Char × List Char × Json) :=
  [('n', ['u', 'l', 'l'], null), ('t', ['r', 'u', 'e'], bool true),
    ('f', ['a', 'l', 's', 'e'], bool false)]

/-- What the scanner of values can find with fuel for `n` more steps down. -/
inductive Finds (n : Nat) (cs : List Char) : Json → List Char → Prop where
  | text {r' r : List Char} {text : Option String} (hskip : skipBlank cs = '"' :: r')
    (hscan : scanString r' = some (text, r)) : Finds n cs (string text) r
  | noItems {r' r : List Char} (hskip : skipBlank cs = '[' :: r')
    (hclose : skipBlank r' = ']' :: r) : Finds n cs (array []) r
  | items {r' r : List Char} {items : List Json} (hskip : skipBlank cs = '[' :: r')
    (hscan : scanItems n r' = some (items, r)) : Finds n cs (array items) r
  | noMembers {r' r : List Char} (hskip : skipBlank cs = '\x7b' :: r')
    (hclose : skipBlank r' = '\x7d' :: r) : Finds n cs (object []) r
  | members {r' r : List Char} {members : List (Option String × Json)}
    (hskip : skipBlank cs = '\x7b' :: r') (hscan : scanMembers n r' = some (members, r)) :
    Finds n cs (object members) r
  | word {c : Char} {letters r' r : List Char} {value : Json}
    (hword : (c, letters, value) ∈ words) (hskip : skipBlank cs = c :: r')
    (hscan : scanWord letters value r' = some (value, r)) : Finds n cs value r
  | number {r : List Char} {value : Number}
    (hscan : scanNumber (skipBlank cs) = some (value, r)) : Finds n cs (number value) r

theorem value_of_scanWord {letters cs r : List Char} {j value : Json}
    (h : scanWord letters j cs = some (value, r)) : j = value := by
  unfold scanWord at h
  rw [Option.ite_none_right_eq_some] at h
  cases h.2
  rfl

theorem finds_of_scanValue {n : Nat} {cs r : List Char} {j : Json}
    (h : scanValue (n + 1) cs = some (j, r)) : Finds n cs j r := by
  unfold scanValue at h
  split at h
  · next hskip =>
    obtain ⟨⟨text, r₁⟩, hscan, h⟩ := Option.map_eq_some_iff.1 h
    cases h
    exact .text hskip hscan
  · next hskip =>
    split at h
    · next hclose =>
      cases h
      exact .noItems hskip hclose
    · rw [scanItems_skipBlank] at h
      obtain ⟨⟨items, r₁⟩, hscan, h⟩ := Option.map_eq_some_iff.1 h
      cases h
      exact .items hskip hscan
  · next hskip =>
    split at h
    · next hclose =>
      cases h
      exact .noMembers hskip hclose
    · rw [scanMembers_skipBlank] at h
      obtain ⟨⟨members, r₁⟩, hscan, h⟩ := Option.map_eq_some_iff.1 h
      cases h
      exact .members hskip hscan
  · next hskip =>
    obtain rfl := value_of_scanWord h
    exact .word (by simp [words]) hskip h
  · next hskip =>
    obtain rfl := value_of_scanWord h
    exact .word (by simp [words]) hskip h
  · next hskip =>
    obtain rfl := value_of_scanWord h
    exact .word (by simp [words]) hskip h
  · obtain ⟨⟨value, r₁⟩, hscan, h⟩ := Option.map_eq_some_iff.1 h
    cases h
    exact .number hscan

theorem scanValue_bracket (n : Nat) (r : List Char) : scanValue n (']' :: r) = none := by
  cases n <;> rfl

theorem scanItems_bracket (n : Nat) (r : List Char) : scanItems n (']' :: r) = none := by
  cases n with
  | zero => rfl
  | succ n =>
    simp only [scanItems, scanValue_bracket]
    rfl

theorem scanMembers_brace (n : Nat) (r : List Char) : scanMembers n ('\x7d' :: r) = none := by
  cases n <;> rfl

theorem scanValue_of_finds {n : Nat} {cs r : List Char} {j : Json} (h : Finds n cs j r) :
    scanValue (n + 1) cs = some (j, r) := by
  cases h with
  | text hskip hscan => simp [scanValue, hskip, hscan]
  | noItems hskip hclose => simp [scanValue, hskip, hclose]
  | items hskip hscan =>
    simp only [scanValue, hskip]
    rw [← scanItems_skipBlank] at hscan
    split
    · next hclose =>
      rw [hclose, scanItems_bracket] at hscan
      cases hscan
    · rw [hscan]
      rfl
  | noMembers hskip hclose => simp [scanValue, hskip, hclose]
  | members hskip hscan =>
    simp only [scanValue, hskip]
    rw [← scanMembers_skipBlank] at hscan
    split
    · next hclose =>
      rw [hclose, scanMembers_brace] at hscan
      cases hscan
    · rw [hscan]
      rfl
  | word hword hskip hscan =>
    simp only [words, List.mem_cons, List.not_mem_nil, or_false, Prod.mk.injEq] at hword
    obtain ⟨rfl, rfl, rfl⟩ | ⟨rfl, rfl, rfl⟩ | ⟨rfl, rfl, rfl⟩ := hword <;>
      simp only [scanValue, hskip, hscan]
  | number hscan =>
    rw [← scanValue_skipBlank]
    exact scanValue_of_scanNumber hscan n

theorem scanValue_eq_some {n : Nat} {cs r : List Char} {j : Json} :
    scanValue (n + 1) cs = some (j, r) ↔ Finds n cs j r := ⟨finds_of_scanValue, scanValue_of_finds⟩

/-- After an item there is the end of the array or a comma and more items. -/
theorem scanItems_eq_some {n : Nat} {cs r : List Char} {items : List Json} :
    scanItems (n + 1) cs = some (items, r) ↔ ∃ value r₁, scanValue n cs = some (value, r₁) ∧
      (skipBlank r₁ = ']' :: r ∧ items = [value] ∨
        ∃ r₂ more, skipBlank r₁ = ',' :: r₂ ∧ scanItems n r₂ = some (more, r) ∧
          items = value :: more) := by
  simp only [scanItems, Option.bind_eq_bind, Option.bind_eq_some_iff, Prod.exists]
  refine exists_congr fun value => exists_congr fun r₁ => and_congr_right fun _ => ?_
  constructor
  · intro h
    split at h
    · next hskip =>
      cases h
      exact .inl ⟨hskip, rfl⟩
    · next r₂ hskip =>
      obtain ⟨⟨more, r₃⟩, hmore, h⟩ := Option.bind_eq_some_iff.1 h
      cases h
      exact .inr ⟨r₂, more, hskip, hmore, rfl⟩
    · cases h
  · rintro (⟨hskip, rfl⟩ | ⟨r₂, more, hskip, hmore, rfl⟩)
    · simp only [hskip]
    · simp only [hskip, hmore, Option.bind_some]

/-- A member is a string, a colon and a value. -/
theorem scanMembers_eq_some {n : Nat} {cs r : List Char} {members : List (Option String × Json)} :
    scanMembers (n + 1) cs = some (members, r) ↔ ∃ r₁ key r₂ r₃ value r₄,
      skipBlank cs = '"' :: r₁ ∧ scanString r₁ = some (key, r₂) ∧ skipBlank r₂ = ':' :: r₃ ∧
      scanValue n r₃ = some (value, r₄) ∧
      (skipBlank r₄ = '\x7d' :: r ∧ members = [(key, value)] ∨
        ∃ r₅ more, skipBlank r₄ = ',' :: r₅ ∧ scanMembers n r₅ = some (more, r) ∧
          members = (key, value) :: more) := by
  constructor
  · intro h
    unfold scanMembers at h
    split at h
    · next r₁ hquote =>
      obtain ⟨⟨key, r₂⟩, hkey, h⟩ := Option.bind_eq_some_iff.1 h
      dsimp only at h
      split at h
      · next r₃ hcolon =>
        obtain ⟨⟨value, r₄⟩, hvalue, h⟩ := Option.bind_eq_some_iff.1 h
        refine ⟨r₁, key, r₂, r₃, value, r₄, hquote, hkey, hcolon, hvalue, ?_⟩
        dsimp only at h
        split at h
        · next hskip =>
          cases h
          exact .inl ⟨hskip, rfl⟩
        · next r₅ hskip =>
          obtain ⟨⟨more, r₆⟩, hmore, h⟩ := Option.bind_eq_some_iff.1 h
          cases h
          exact .inr ⟨r₅, more, hskip, hmore, rfl⟩
        · cases h
      · cases h
    · cases h
  · rintro ⟨r₁, key, r₂, r₃, value, r₄, hquote, hkey, hcolon, hvalue,
      ⟨hskip, rfl⟩ | ⟨r₅, more, hskip, hmore, rfl⟩⟩
    · simp only [scanMembers, hquote, hkey, hcolon, hvalue, hskip, Option.bind_eq_bind,
        Option.bind_some]
    · simp only [scanMembers, hquote, hkey, hcolon, hvalue, hskip, hmore, Option.bind_eq_bind,
        Option.bind_some]

-- ============================================== values inside of a text

/-- A scanner that with at least the fuel `n` extends what it scans with `n`. -/
def ExtendsFrom {α : Type} (scan : Nat → List Char → Option (α × List Char)) (n : Nat) : Prop :=
  ∀ m cs a r rest, n ≤ m → Stops rest → scan n cs = some (a, r) →
    scan m (cs ++ rest) = some (a, r ++ rest)

theorem skipBlank_append_of_cons {cs r : List Char} {c : Char} (h : skipBlank cs = c :: r)
    (rest : List Char) : skipBlank (cs ++ rest) = c :: (r ++ rest) := by
  rw [skipBlank_append, h]
  rfl

theorem scanItems_succ {n : Nat} (hvalue : ExtendsFrom scanValue n)
    (hitems : ExtendsFrom scanItems n) : ExtendsFrom scanItems (n + 1) := by
  intro m cs items r rest hnm hrest h
  obtain ⟨m, rfl⟩ := Nat.exists_eq_add_of_le' (Nat.le_of_add_left_le hnm)
  have hle : n ≤ m := Nat.le_of_succ_le_succ hnm
  rw [scanItems_eq_some] at h ⊢
  obtain ⟨value, r₁, hscan, h⟩ := h
  refine ⟨value, r₁ ++ rest, hvalue _ _ _ _ _ hle hrest hscan, ?_⟩
  rcases h with ⟨hskip, hone⟩ | ⟨r₂, more, hskip, hmore, hall⟩
  · exact .inl ⟨skipBlank_append_of_cons hskip rest, hone⟩
  · exact .inr ⟨r₂ ++ rest, more, skipBlank_append_of_cons hskip rest,
      hitems _ _ _ _ _ hle hrest hmore, hall⟩

theorem scanMembers_succ {n : Nat} (hvalue : ExtendsFrom scanValue n)
    (hmembers : ExtendsFrom scanMembers n) : ExtendsFrom scanMembers (n + 1) := by
  intro m cs members r rest hnm hrest h
  obtain ⟨m, rfl⟩ := Nat.exists_eq_add_of_le' (Nat.le_of_add_left_le hnm)
  have hle : n ≤ m := Nat.le_of_succ_le_succ hnm
  rw [scanMembers_eq_some] at h ⊢
  obtain ⟨r₁, key, r₂, r₃, value, r₄, hquote, hkey, hcolon, hscan, h⟩ := h
  refine ⟨r₁ ++ rest, key, r₂ ++ rest, r₃ ++ rest, value, r₄ ++ rest,
    skipBlank_append_of_cons hquote rest, scanString_extends _ _ _ _ hrest hkey,
    skipBlank_append_of_cons hcolon rest, hvalue _ _ _ _ _ hle hrest hscan, ?_⟩
  rcases h with ⟨hskip, hone⟩ | ⟨r₅, more, hskip, hmore, hall⟩
  · exact .inl ⟨skipBlank_append_of_cons hskip rest, hone⟩
  · exact .inr ⟨r₅ ++ rest, more, skipBlank_append_of_cons hskip rest,
      hmembers _ _ _ _ _ hle hrest hmore, hall⟩

theorem scanValue_succ {n : Nat} (hitems : ExtendsFrom scanItems n)
    (hmembers : ExtendsFrom scanMembers n) : ExtendsFrom scanValue (n + 1) := by
  intro m cs j r rest hnm hrest h
  obtain ⟨m, rfl⟩ := Nat.exists_eq_add_of_le' (Nat.le_of_add_left_le hnm)
  have hle : n ≤ m := Nat.le_of_succ_le_succ hnm
  rw [scanValue_eq_some] at h ⊢
  cases h with
  | text hskip hscan =>
    exact .text (skipBlank_append_of_cons hskip rest) (scanString_extends _ _ _ _ hrest hscan)
  | noItems hskip hclose =>
    exact .noItems (skipBlank_append_of_cons hskip rest) (skipBlank_append_of_cons hclose rest)
  | items hskip hscan =>
    exact .items (skipBlank_append_of_cons hskip rest) (hitems _ _ _ _ _ hle hrest hscan)
  | noMembers hskip hclose =>
    exact .noMembers (skipBlank_append_of_cons hskip rest) (skipBlank_append_of_cons hclose rest)
  | members hskip hscan =>
    exact .members (skipBlank_append_of_cons hskip rest) (hmembers _ _ _ _ _ hle hrest hscan)
  | word hword hskip hscan =>
    exact .word hword (skipBlank_append_of_cons hskip rest)
      (scanWord_extends _ _ _ _ _ _ hrest hscan)
  | number hscan =>
    obtain ⟨c, r', hskip, -⟩ := head_of_scanNumber hscan
    refine .number ?_
    rw [skipBlank_append_of_cons hskip, ← List.cons_append, ← hskip]
    exact scanNumber_extends _ _ _ _ hrest hscan

/-- Values, items and members are scanned the same inside of a longer text, with as
much fuel or more. The three go down together, since each is found with the fuel that
the others leave. -/
theorem extendsFrom (n : Nat) :
    ExtendsFrom scanValue n ∧ ExtendsFrom scanItems n ∧ ExtendsFrom scanMembers n := by
  induction n with
  | zero =>
    refine ⟨?_, ?_, ?_⟩ <;>
    · intro _ _ _ _ _ _ _ h
      cases h
  | succ n ih =>
    obtain ⟨hvalue, hitems, hmembers⟩ := ih
    exact ⟨scanValue_succ hitems hmembers, scanItems_succ hvalue hitems,
      scanMembers_succ hvalue hmembers⟩

end Stagecraft.Json
