/-
The texts of arrays, objects and names.

An array is read from the texts of its items with commas between them, and an
object from the texts of its members: whatever each text is read as alone, with
the blanks around it, it is read as in its place. A name without quotes,
backslashes and controls is read back from between its quotes.
-/
import Stagecraft.Json.Form
import Stagecraft.Proofs.Json.Values

namespace Stagecraft.Json

-- =========================================== a text inside of a longer one

theorem read?_eq_some {text : String} {j : Json} :
    read? text = some j ↔ ∃ r, scanValue (2 * text.toList.length + 2) text.toList = some (j, r) ∧
      skipBlank r = [] := by
  unfold read?
  dsimp only
  split
  · next value r hscan =>
    simp [hscan, and_comm]
  · next hscan =>
    simp [hscan]

/-- What is behind the value of a text are blanks, which count with what follows. -/
theorem scanValue_of_read? {text : String} {j : Json} (h : read? text = some j) {m : Nat}
    (hm : 2 * text.toList.length + 2 ≤ m) {rest : List Char} (hrest : Stops rest) :
    ∃ r, scanValue m (text.toList ++ rest) = some (j, r) ∧ skipBlank r = skipBlank rest := by
  obtain ⟨r, hscan, hblank⟩ := read?_eq_some.1 h
  refine ⟨r ++ rest, (extendsFrom _).1 _ _ _ _ _ hm hrest hscan, ?_⟩
  rw [skipBlank_append, hblank]
  rfl

theorem scanString_of_read? {text : String} {key : Option String}
    (h : read? text = some (string key)) {rest : List Char} (hrest : Stops rest) :
    ∃ r₁ r₂, skipBlank (text.toList ++ rest) = '"' :: r₁ ∧ scanString r₁ = some (key, r₂) ∧
      skipBlank r₂ = skipBlank rest := by
  obtain ⟨r, hscan, hblank⟩ := read?_eq_some.1 h
  cases finds_of_scanValue hscan with
  | @text r₁ _ _ hskip hstring =>
    refine ⟨r₁ ++ rest, r ++ rest, skipBlank_append_of_cons hskip rest,
      scanString_extends _ _ _ _ hrest hstring, ?_⟩
    rw [skipBlank_append, hblank]
    rfl
  | word hword => simp [words] at hword

theorem stops_comma (rest : List Char) : Stops (',' :: rest) := stops_cons.2 (by decide)

theorem stops_colon (rest : List Char) : Stops (':' :: rest) := stops_cons.2 (by decide)

theorem stops_bracket (rest : List Char) : Stops (']' :: rest) := stops_cons.2 (by decide)

theorem stops_brace (rest : List Char) : Stops ('\x7d' :: rest) := stops_cons.2 (by decide)

-- ================================================================= arrays

/-- The characters of texts with commas between them. -/
def commaJoined (texts : List String) : List Char := [','].intercalate (texts.map String.toList)

@[simp] theorem commaJoined_singleton (text : String) : commaJoined [text] = text.toList :=
  List.intercalate_singleton

@[simp] theorem commaJoined_cons_cons (text text' : String) (texts : List String) :
    commaJoined (text :: text' :: texts) = text.toList ++ ',' :: commaJoined (text' :: texts) := by
  simp [commaJoined, List.intercalate_cons_cons]

/-- The items of an array are read one by one; the induction is on the texts after the
first one, and the fuel that is left is enough for the characters that are left. -/
theorem scanItems_commaJoined {text : String} {j : Json} (hread : read? text = some j)
    {texts : List String} {items : List Json}
    (h : List.Forall₂ (fun text j => read? text = some j) texts items) {m : Nat}
    (hm : 2 * (commaJoined (text :: texts)).length + 3 ≤ m) (rest : List Char) :
    scanItems m (commaJoined (text :: texts) ++ ']' :: rest) = some (j :: items, rest) := by
  induction h generalizing text j m with
  | nil =>
    obtain ⟨m, rfl⟩ := Nat.exists_eq_add_of_le' (Nat.le_of_add_left_le hm)
    rw [commaJoined_singleton] at hm ⊢
    obtain ⟨r, hscan, hskip⟩ := scanValue_of_read? hread (m := m + 2) (by omega)
      (stops_bracket rest)
    exact scanItems_eq_some.2 ⟨j, r, hscan, .inl ⟨hskip, rfl⟩⟩
  | @cons text' j' texts items hread' htail ih =>
    obtain ⟨m, rfl⟩ := Nat.exists_eq_add_of_le' (Nat.le_of_add_left_le hm)
    rw [commaJoined_cons_cons, List.length_append, List.length_cons] at hm
    rw [commaJoined_cons_cons, List.append_assoc]
    obtain ⟨r, hscan, hskip⟩ := scanValue_of_read? hread (m := m + 2) (by omega)
      (stops_comma (commaJoined (text' :: texts) ++ ']' :: rest))
    exact scanItems_eq_some.2 ⟨j, r, hscan, .inr ⟨_, _, hskip, ih hread' (by omega), rfl⟩⟩

theorem read?_writeArray {texts : List String} {items : List Json}
    (h : List.Forall₂ (fun text j => read? text = some j) texts items) :
    read? (writeArray texts) = some (array items) := by
  have hchars : (writeArray texts).toList = '[' :: (commaJoined texts ++ [']']) := by
    simp [writeArray, commaJoined]
  rw [read?_eq_some, hchars]
  refine ⟨[], scanValue_eq_some.2 ?_, rfl⟩
  cases h with
  | nil => exact .noItems rfl rfl
  | cons hread htail =>
    refine .items rfl (scanItems_commaJoined hread htail ?_ [])
    simp only [List.length_cons, List.length_append]
    omega

-- ================================================================ objects

def memberText (texts : String × String) : String := texts.1 ++ ":" ++ texts.2

/-- The text of an object whose members have keys and values of these texts. -/
def objectText (members : List (String × String)) : String :=
  "\x7b" ++ ",".intercalate (members.map memberText) ++ "\x7d"

theorem writeObject_eq (members : List (String × String)) :
    writeObject members = objectText (members.map fun p => (writeName p.1, p.2)) := by
  simp [writeObject, objectText, memberText, Function.comp_def]

/-- The texts of a key and of a value that stand for a member. -/
def Spells (texts : String × String) (member : Option String × Json) : Prop :=
  read? texts.1 = some (string member.1) ∧ read? texts.2 = some member.2

theorem length_memberText (texts : String × String) : (memberText texts).toList.length
    = texts.1.toList.length + texts.2.toList.length + 1 := by
  simp [memberText]
  omega

/-- A member is read up to the mark behind its value. -/
theorem scanMember_of_spells {texts : String × String} {member : Option String × Json}
    (h : Spells texts member) {m : Nat} (hm : 2 * texts.2.toList.length + 2 ≤ m)
    {rest : List Char} (hrest : Stops rest) :
    ∃ r₁ r₂ r₃ r₄, skipBlank ((memberText texts).toList ++ rest) = '"' :: r₁ ∧
      scanString r₁ = some (member.1, r₂) ∧ skipBlank r₂ = ':' :: r₃ ∧
      scanValue m r₃ = some (member.2, r₄) ∧ skipBlank r₄ = skipBlank rest := by
  obtain ⟨hkey, hvalue⟩ := h
  obtain ⟨r₁, r₂, hquote, hstring, hcolon⟩ :=
    scanString_of_read? hkey (stops_colon (texts.2.toList ++ rest))
  obtain ⟨r₄, hscan, hskip⟩ := scanValue_of_read? hvalue hm hrest
  refine ⟨r₁, r₂, _, r₄, ?_, hstring, hcolon, hscan, hskip⟩
  simpa [memberText] using hquote

theorem scanMembers_commaJoined {text : String × String} {member : Option String × Json}
    (hspells : Spells text member) {texts : List (String × String)}
    {members : List (Option String × Json)} (h : List.Forall₂ Spells texts members) {m : Nat}
    (hm : 2 * (commaJoined ((text :: texts).map memberText)).length + 3 ≤ m)
    (rest : List Char) :
    scanMembers m (commaJoined ((text :: texts).map memberText) ++ '\x7d' :: rest)
      = some (member :: members, rest) := by
  induction h generalizing text member m with
  | nil =>
    obtain ⟨m, rfl⟩ := Nat.exists_eq_add_of_le' (Nat.le_of_add_left_le hm)
    rw [List.map_singleton, commaJoined_singleton] at hm ⊢
    rw [length_memberText] at hm
    obtain ⟨r₁, r₂, r₃, r₄, hquote, hkey, hcolon, hscan, hskip⟩ :=
      scanMember_of_spells hspells (m := m + 2) (by omega) (stops_brace rest)
    exact scanMembers_eq_some.2 ⟨r₁, member.1, r₂, r₃, member.2, r₄, hquote, hkey, hcolon, hscan,
      .inl ⟨hskip, rfl⟩⟩
  | @cons text' member' texts members hspells' htail ih =>
    obtain ⟨m, rfl⟩ := Nat.exists_eq_add_of_le' (Nat.le_of_add_left_le hm)
    rw [List.map_cons, List.map_cons, commaJoined_cons_cons, ← List.map_cons] at hm ⊢
    rw [List.length_append, List.length_cons, length_memberText] at hm
    rw [List.append_assoc]
    obtain ⟨r₁, r₂, r₃, r₄, hquote, hkey, hcolon, hscan, hskip⟩ :=
      scanMember_of_spells hspells (m := m + 2) (by omega)
        (stops_comma (commaJoined ((text' :: texts).map memberText) ++ '\x7d' :: rest))
    exact scanMembers_eq_some.2 ⟨r₁, member.1, r₂, r₃, member.2, r₄, hquote, hkey, hcolon, hscan,
      .inr ⟨_, member' :: members, hskip, ih hspells' (by omega), rfl⟩⟩

theorem read?_objectText {texts : List (String × String)} {members : List (Option String × Json)}
    (h : List.Forall₂ Spells texts members) :
    read? (objectText texts) = some (object members) := by
  have hchars : (objectText texts).toList
      = '\x7b' :: (commaJoined (texts.map memberText) ++ ['\x7d']) := by
    simp [objectText, commaJoined]
  rw [read?_eq_some, hchars]
  refine ⟨[], scanValue_eq_some.2 ?_, rfl⟩
  cases h with
  | nil => exact .noMembers rfl rfl
  | cons hspells htail =>
    refine .members rfl (scanMembers_commaJoined hspells htail ?_ [])
    simp only [List.length_cons, List.length_append]
    omega

-- ================================================================== names

/-- A name without quotes, backslashes and controls. -/
def IsPlain (name : String) : Prop := ∀ c ∈ name.toList, 0x20 ≤ c.toNat ∧ c ≠ '"' ∧ c ≠ '\\'

instance (name : String) : Decidable (IsPlain name) := List.decidableBAll _ name.toList

theorem scanText_plain {cs : List Char} (h : ∀ c ∈ cs, 0x20 ≤ c.toNat ∧ c ≠ '"' ∧ c ≠ '\\')
    {n : Nat} (hn : cs.length < n) (rest : List Char) :
    scanText n (cs ++ '"' :: rest) = some (some cs, rest) := by
  induction cs generalizing n with
  | nil =>
    obtain ⟨n, rfl⟩ := Nat.exists_eq_add_of_lt hn
    rfl
  | cons c cs ih =>
    obtain ⟨n, rfl⟩ := Nat.exists_eq_add_of_lt hn
    obtain ⟨hlow, hquote, hslash⟩ := h c List.mem_cons_self
    have hhead : ∀ d ∈ (c :: (cs ++ '"' :: rest)).head?, d ≠ '"' := by simpa using hquote
    have hchar := scanChar_plain (Nat.not_lt.2 hlow) hslash (cs ++ '"' :: rest)
    have htail := ih (fun d hd => h d (List.mem_cons_of_mem c hd)) (n := (c :: cs).length + n)
      (by rw [List.length_cons]; omega)
    rw [List.cons_append, scanText_of_ne hhead, hchar, Option.bind_some, htail]
    rfl

theorem read?_writeName {name : String} (h : IsPlain name) :
    read? (writeName name) = some (string (some name)) := by
  have hchars : (writeName name).toList = '"' :: (name.toList ++ ['"']) := by simp [writeName]
  rw [read?_eq_some, hchars]
  refine ⟨[], scanValue_eq_some.2 (.text rfl ?_), rfl⟩
  unfold scanString
  rw [scanText_plain h (by rw [List.length_append]; omega) []]
  simp

end Stagecraft.Json
