/-
Documents of settings: what is written and what is read of it.

A document is written line by line, each line with its end, so reading begins
by cutting it into the lines that were written and an empty one
(`splitOn_render`). Then the reader takes a line at a time. A line in brackets
opens a section; a line of a key adds an entry to the section that is open,
with the value as far as the reader sees it, which is up to a comment mark and
without the blanks at its ends (`addLine_key`). Here keys and names of sections
are words of small letters, as the reader makes letters small; values are any
texts of one line.

What is looked up is a key of a section, and where no key is there twice the
order of the entries does not count (`get?_of_perm`). So it does not count in
which order sections are written, nor in which order the keys of a section
are.
-/
import Mathlib.Data.List.Forall2
import Mathlib.Data.List.Nodup
import Stagecraft.Ini
import Stagecraft.Proofs.Text.Blanks
import Stagecraft.Proofs.Text.Lines

namespace Stagecraft.Ini

deriving instance DecidableEq for Ini

-- ================================================================ reading

/-- Reading goes by the lines of the text. -/
theorem parse_eq (text : String) :
    parse text = addLines "default" {} 1 (text.toList.splitOn '\n') := by
  unfold parse
  rw [← Text.splitOn_singleton text '\n']
  rfl

/-- A blank is no comment mark. -/
theorem isComment_of_isBlank {c : Char} (h : Text.isBlank c = true) : isComment c = false := by
  unfold isComment
  rw [Bool.or_eq_false_iff, beq_eq_false_iff_ne, beq_eq_false_iff_ne]
  constructor
  · rintro rfl
    revert h
    decide
  · rintro rfl
    revert h
    decide

/-- The blanks around a line do not count, wherever the comment begins. -/
theorem content_eq (line : List Char) :
    content line = Text.trim (line.takeWhile fun c => !isComment c) := by
  refine Text.strip_takeWhile_strip (fun c hc => ?_) line
  rw [isComment_of_isBlank hc]
  rfl

-- ================================================================== words

/-- A name that the reader keeps as it is: small letters and underscores. -/
def IsWord (name : String) : Prop :=
  name.toList ≠ [] ∧ ∀ c ∈ name.toList, c.isLower = true ∨ c = '_'

instance (name : String) : Decidable (IsWord name) := inferInstanceAs (Decidable (_ ∧ _))

namespace IsWord

variable {name : String} (h : IsWord name)

include h

/-- No character of a word means anything to the reader. -/
theorem plain {c : Char} (hc : c ∈ name.toList) :
    Text.isBlank c = false ∧ isComment c = false ∧ isDelimiter c = false ∧ c ≠ '[' ∧ c ≠ '\n'
      ∧ c.toLower = c := by
  rcases h.2 c hc with hlower | rfl
  · have hletter : (decide ('a'.val ≤ c.val) && decide (c.val ≤ 'z'.val)) = true := hlower
    have hrange : 97 ≤ c.toNat ∧ c.toNat ≤ 122 := by
      simpa [UInt32.le_iff_toNat_le] using hletter
    have hother : ∀ d : Char, d.toNat < 97 → c ≠ d := by
      rintro d hd rfl
      omega
    refine ⟨Text.not_isBlank_of_visible (by omega), ?_, ?_, hother _ (by decide),
      hother _ (by decide), ?_⟩
    · unfold isComment
      simp [hother]
    · unfold isDelimiter
      simp [hother]
    · unfold Char.toLower
      rw [dif_neg]
      rintro ⟨-, hle⟩
      have hle' : c.val.toNat ≤ 90 := UInt32.le_iff_toNat_le.1 hle
      have hval : c.val.toNat = c.toNat := rfl
      omega
  · decide

theorem not_newline : '\n' ∉ name.toList := fun hc => (h.plain hc).2.2.2.2.1 rfl

theorem bare : Text.Bare Text.isBlank name.toList :=
  ⟨fun _ hc => (h.plain (List.mem_of_mem_head? hc)).1,
    fun _ hc => (h.plain (List.mem_of_getLast? hc)).1⟩

/-- The reader reads a word as the name that it is. -/
theorem name_eq : Ini.name name.toList = name := by
  have hlower : name.toList.map Char.toLower = name.toList :=
    (List.map_congr_left fun c hc => (h.plain hc).2.2.2.2.2).trans (List.map_id _)
  unfold Ini.name Text.trim
  rw [Text.strip_of_bare h.bare, hlower, String.ofList_toList]

/-- A word has no comment in it. -/
theorem takeWhile_comment (rest : List Char) :
    (name.toList ++ rest).takeWhile (fun c => !isComment c)
      = name.toList ++ rest.takeWhile fun c => !isComment c := by
  refine List.takeWhile_append_of_pos fun c hc => ?_
  rw [(h.plain hc).2.1]
  rfl

/-- A word ends at the first delimiter behind it. -/
theorem takeWhile_delimiter (rest : List Char) :
    (name.toList ++ '=' :: rest).takeWhile (fun c => !isDelimiter c) = name.toList := by
  rw [List.takeWhile_append_of_pos, List.takeWhile_cons_of_neg (by decide), List.append_nil]
  intro c hc
  rw [(h.plain hc).2.2.1]
  rfl

theorem dropWhile_delimiter (rest : List Char) :
    (name.toList ++ '=' :: rest).dropWhile (fun c => !isDelimiter c) = '=' :: rest := by
  rw [List.dropWhile_append_of_pos, List.dropWhile_cons_of_neg (by decide)]
  intro c hc
  rw [(h.plain hc).2.2.1]
  rfl

end IsWord

-- ============================================================ single lines

/-- What the reader keeps of a value: all up to a comment mark, without the blanks
at its ends. -/
def kept (value : List Char) : String :=
  String.ofList (Text.trim (value.takeWhile fun c => !isComment c))

variable {name : String}

/-- The brackets around a word have no blanks around them and no comment between them. -/
theorem content_section (h : IsWord name) :
    content ('[' :: (name.toList ++ [']'])) = '[' :: (name.toList ++ [']']) := by
  have hlast : ('[' :: (name.toList ++ [']'])).getLast? = some ']' := by
    rw [← List.cons_append]
    exact List.getLast?_concat
  rw [content_eq, List.takeWhile_cons_of_pos (by decide), h.takeWhile_comment]
  refine Text.strip_of_bare ⟨fun c hc => ?_, fun c hc => ?_⟩
  · cases hc
    decide
  · cases hlast.symm.trans hc
    decide

/-- A word in brackets opens a section. -/
theorem addLine_section (h : IsWord name) (sec : String) (ini : Ini) (number : Nat) :
    addLine sec ini number ('[' :: (name.toList ++ [']'])) = .ok (name, ini) := by
  have hbracket : beforeBracket? (name.toList ++ [']']) = some name.toList := by
    unfold beforeBracket?
    rw [List.reverse_append, List.reverse_singleton, List.singleton_append,
      List.dropWhile_cons_of_neg (by decide)]
    exact congrArg some (List.reverse_reverse _)
  unfold addLine
  rw [content_section h]
  split
  next hnil => cases hnil
  next rest hopen =>
    rw [← (List.cons.inj hopen).2, hbracket]
    dsimp only
    rw [h.name_eq]
  next hother => exact absurd rfl (hother _)

/-- Of a line with a key the reader sees the key, the equals sign and a part of the
value, in which nothing but blanks at its ends is missing before a comment. -/
theorem exists_content_key (h : IsWord name) (value : List Char) :
    ∃ body, content (name.toList ++ '=' :: value) = name.toList ++ '=' :: body
      ∧ Text.trim body = Text.trim (value.takeWhile fun c => !isComment c) := by
  have hbare : Text.Bare Text.isBlank (name.toList ++ ['=']) := by
    obtain ⟨first, rest, hname⟩ := List.exists_cons_of_ne_nil h.1
    refine ⟨fun c hc => h.bare.1 c ?_, fun c hc => ?_⟩
    · rw [hname] at hc ⊢
      exact hc
    · cases List.getLast?_concat.symm.trans hc
      decide
  obtain ⟨body, hstrip, hbody⟩ := Text.exists_strip_append
    (List.append_ne_nil_of_left_ne_nil h.1 ['=']) hbare (value.takeWhile fun c => !isComment c)
  refine ⟨body, ?_, hbody⟩
  rw [content_eq, h.takeWhile_comment, List.takeWhile_cons_of_pos (by decide)]
  unfold Text.trim
  simpa using hstrip

/-- A word, an equals sign and a value make an entry of the section that is open. -/
theorem addLine_key (h : IsWord name) (sec : String) (ini : Ini) (number : Nat)
    (value : List Char) :
    addLine sec ini number (name.toList ++ '=' :: value)
      = .ok (sec, ⟨ini.entries ++ [(sec, name, some (kept value))]⟩) := by
  obtain ⟨body, hcontent, hbody⟩ := exists_content_key h value
  obtain ⟨first, rest, hname⟩ := List.exists_cons_of_ne_nil h.1
  have hfirst : first ≠ '[' := (h.plain (hname ▸ List.mem_cons_self)).2.2.2.1
  have hnonempty : name ≠ "" := by
    rintro rfl
    exact h.1 rfl
  unfold addLine
  rw [hcontent]
  split
  next hnil => simp at hnil
  next rest' hopen =>
    rw [hname] at hopen
    exact absurd (List.cons.inj hopen).1 hfirst
  next =>
    dsimp only
    rw [h.takeWhile_delimiter, h.dropWhile_delimiter, h.name_eq, if_neg hnonempty]
    dsimp only
    rw [hbody]
    rfl

-- ========================================================= whole documents

/-- Sections by their names, each with its keys and their values, as they are written. -/
abbrev Document : Type := List (String × List (String × String))

namespace Document

/-- Names and keys are words, and values are texts of one line. -/
def Plain (d : Document) : Prop :=
  ∀ s ∈ d, IsWord s.1 ∧ ∀ p ∈ s.2, IsWord p.1 ∧ '\n' ∉ p.2.toList

/-- The lines of a section, without their ends. -/
def sectionLines (s : String × List (String × String)) : List (List Char) :=
  ('[' :: (s.1.toList ++ [']'])) :: s.2.map fun p => p.1.toList ++ '=' :: p.2.toList

def lines (d : Document) : List (List Char) := d.flatMap sectionLines

/-- The entries that a section makes. -/
def sectionEntries (s : String × List (String × String)) : List (String × String × Option String) :=
  s.2.map fun p => (s.1, p.1, some (kept p.2.toList))

/-- What is read of a document. -/
def entries (d : Document) : List (String × String × Option String) := d.flatMap sectionEntries

theorem toList_render (d : Document) : (render d).toList = d.lines.flatMap (· ++ ['\n']) := by
  unfold render lines sectionLines
  rw [String.toList_join, List.flatMap_map, List.flatMap_assoc]
  refine List.flatMap_congr fun s _ => ?_
  rw [String.toList_append, String.toList_join, List.flatMap_map, List.flatMap_cons,
    List.flatMap_map]
  simp

/-- Cutting what is written gives the lines of the document, and an empty one. -/
theorem splitOn_render {d : Document} (h : d.Plain) :
    (render d).toList.splitOn '\n' = d.lines ++ [[]] := by
  rw [toList_render]
  refine Text.splitOn_flatMap fun line hline => ?_
  obtain ⟨s, hs, hline⟩ := List.mem_flatMap.1 hline
  obtain ⟨hname, hkeys⟩ := h s hs
  rcases List.mem_cons.1 hline with rfl | hkey
  · simpa using hname.not_newline
  · obtain ⟨p, hp, rfl⟩ := List.mem_map.1 hkey
    simpa using And.intro (hkeys p hp).1.not_newline (hkeys p hp).2

theorem addLines_keys {sec : String} {keys : List (String × String)}
    (h : ∀ p ∈ keys, IsWord p.1) (es : List (String × String × Option String)) (number : Nat)
    (rest : List (List Char)) :
    addLines sec ⟨es⟩ number ((keys.map fun p => p.1.toList ++ '=' :: p.2.toList) ++ rest)
      = addLines sec ⟨es ++ sectionEntries (sec, keys)⟩ (number + keys.length) rest := by
  induction keys generalizing es number with
  | nil =>
      show addLines sec ⟨es⟩ number rest = addLines sec ⟨es ++ []⟩ number rest
      rw [List.append_nil]
  | cons p keys ih =>
      have hrest := ih (fun r hr => h r (List.mem_cons_of_mem _ hr))
        (es ++ [(sec, p.1, some (kept p.2.toList))]) (number + 1)
      rw [List.map_cons, List.cons_append, addLines, addLine_key (h p List.mem_cons_self)]
      dsimp only
      rw [hrest, List.append_assoc, List.length_cons, Nat.add_assoc, Nat.add_comm 1]
      rfl

theorem addLines_lines {d : Document} (h : d.Plain) (sec : String)
    (es : List (String × String × Option String)) (number : Nat) :
    addLines sec ⟨es⟩ number (d.lines ++ [[]]) = .ok ⟨es ++ d.entries⟩ := by
  induction d generalizing sec es number with
  | nil =>
      show Except.ok (⟨es⟩ : Ini) = .ok ⟨es ++ []⟩
      rw [List.append_nil]
  | cons s d ih =>
      obtain ⟨hname, hkeys⟩ := h s List.mem_cons_self
      have hrest := ih (fun r hr => h r (List.mem_cons_of_mem _ hr))
      unfold lines entries
      rw [List.flatMap_cons, List.flatMap_cons, List.append_assoc]
      unfold sectionLines
      rw [List.cons_append, addLines, addLine_section hname]
      dsimp only
      rw [addLines_keys fun p hp => (hkeys p hp).1]
      refine (hrest s.1 _ _).trans ?_
      rw [List.append_assoc]
      rfl

/-- A document is read as the entries that its sections make, one after the other. -/
theorem parse_render {d : Document} (h : d.Plain) : parse (render d) = .ok ⟨d.entries⟩ := by
  rw [parse_eq, splitOn_render h]
  exact addLines_lines h "default" [] 1

-- ============================================================== reordering

/-- The same sections with the same keys, but sections and the keys in each of them
in any order. -/
def Reordered (d e : Document) : Prop :=
  ∃ m : Document, List.Forall₂ (fun s t => s.1 = t.1 ∧ s.2.Perm t.2) d m ∧ m.Perm e

theorem reordered_refl (d : Document) : d.Reordered d :=
  ⟨d, List.forall₂_same.2 fun _ _ => ⟨rfl, List.Perm.refl _⟩, List.Perm.refl _⟩

/-- Whatever the order, the same entries are read. -/
theorem Reordered.entries_perm {d e : Document} (h : d.Reordered e) :
    d.entries.Perm e.entries := by
  obtain ⟨m, hsections, hperm⟩ := h
  have hkeys : d.entries.Perm m.entries := by
    clear hperm
    induction hsections with
    | nil => exact List.Perm.refl _
    | cons hst _ ih =>
        unfold entries sectionEntries
        rw [List.flatMap_cons, List.flatMap_cons, hst.1]
        exact (hst.2.map _).append ih
  exact hkeys.trans (hperm.flatMap_right _)

theorem Reordered.plain {d e : Document} (h : d.Reordered e) (hd : d.Plain) : e.Plain := by
  obtain ⟨m, hsections, hperm⟩ := h
  have hm : m.Plain := by
    clear hperm
    induction hsections with
    | nil => exact hd
    | cons hst _ ih =>
        obtain ⟨hname, hkeys⟩ := hd _ List.mem_cons_self
        intro s hs
        rcases List.mem_cons.1 hs with rfl | hs
        · exact ⟨hst.1 ▸ hname, fun p hp => hkeys p (hst.2.mem_iff.2 hp)⟩
        · exact ih (fun r hr => hd r (List.mem_cons_of_mem _ hr)) s hs
  exact fun s hs => hm s (hperm.mem_iff.2 hs)

end Document

-- ============================================================== looking up

variable {es fs : List (String × String × Option String)}

/-- No key is in a section twice. -/
def Distinct (es : List (String × String × Option String)) : Prop :=
  (es.map fun e => (e.1, e.2.1)).Nodup

/-- A key that is there once has the value that stands with it. -/
theorem get?_of_mem (h : Distinct es) {sec key : String} {value : Option String}
    (hmem : (sec, key, value) ∈ es) : (⟨es⟩ : Ini).get? sec key = value := by
  unfold get?
  cases hfind : es.reverse.find? fun e => e.1 == sec && e.2.1 == key with
  | none =>
      have hother := List.find?_eq_none.1 hfind _ (List.mem_reverse.2 hmem)
      simp at hother
  | some e =>
      have he : e ∈ es := List.mem_reverse.1 (List.mem_of_find?_eq_some hfind)
      have hkey := List.find?_some hfind
      rw [Bool.and_eq_true, beq_iff_eq, beq_iff_eq] at hkey
      have hsame : e = (sec, key, value) :=
        List.inj_on_of_nodup_map h he hmem (Prod.ext hkey.1 hkey.2)
      rw [hsame]
      rfl

theorem get?_of_not_mem {sec key : String} (h : ∀ e ∈ es, ¬(e.1 = sec ∧ e.2.1 = key)) :
    (⟨es⟩ : Ini).get? sec key = none := by
  unfold get?
  rw [List.find?_eq_none.2]
  · rfl
  · intro e he hkey
    rw [Bool.and_eq_true, beq_iff_eq, beq_iff_eq] at hkey
    exact h e (List.mem_reverse.1 he) hkey

/-- The order of entries does not count if no key is there twice. -/
theorem get?_of_perm (hperm : es.Perm fs) (h : Distinct es) (sec key : String) :
    (⟨fs⟩ : Ini).get? sec key = (⟨es⟩ : Ini).get? sec key := by
  have hdistinct : Distinct fs := (hperm.map _).nodup_iff.1 h
  by_cases hthere : ∃ e ∈ es, e.1 = sec ∧ e.2.1 = key
  · obtain ⟨⟨sec, key, value⟩, he, rfl, rfl⟩ := hthere
    rw [get?_of_mem h he, get?_of_mem hdistinct (hperm.mem_iff.1 he)]
  · have hnone : ∀ e ∈ es, ¬(e.1 = sec ∧ e.2.1 = key) := fun e he hkey => hthere ⟨e, he, hkey⟩
    rw [get?_of_not_mem hnone, get?_of_not_mem fun e he => hnone e (hperm.mem_iff.2 he)]

/-- Whatever the order, every key has what is kept of its value. -/
theorem get?_of_reordered {d e : Document} (h : d.Reordered e) (hd : Distinct d.entries)
    {s : String × List (String × String)} (hs : s ∈ d) {p : String × String} (hp : p ∈ s.2) :
    (⟨e.entries⟩ : Ini).get? s.1 p.1 = some (kept p.2.toList) := by
  rw [get?_of_perm h.entries_perm hd]
  exact get?_of_mem hd (List.mem_flatMap.2 ⟨s, hs, List.mem_map.2 ⟨p, hp, rfl⟩⟩)

end Stagecraft.Ini
