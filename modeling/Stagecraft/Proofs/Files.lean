/-
What is written to a tree of files is read from it.

A path is walked step by step through directories, and writing only adds to
these: the places above the new file become directories if they are not, and
no place that was a directory stops being one. So a walk that succeeded before
the file was written succeeds after it and leads to the same directory
(`enterAll_putAt`), and at its end there is the file, with its text. A walk that
succeeds leads to where its path leads whatever is there (`eq_of_enterAll`), so
the one exception, which is the file that is always empty, is known by its path.
-/
import Stagecraft.Files

namespace Stagecraft

/-- Where a step of a path leads, whatever is there. -/
def Place.step (d : Place) (name : String) : Place :=
  if name = "" ∨ name = "." then d else if name = ".." then d.up else d ++ [name]

namespace FileTree

variable {t : FileTree} {p : Place} {text : String}

-- =============================================================== walking

/-- A file that is put anywhere takes no directory away. -/
theorem isDirectory_putAt {d : Place} (h : t.isDirectory d = true) :
    (t.putAt p text).isDirectory d = true := by
  unfold isDirectory at h ⊢
  rw [Bool.or_eq_true, Bool.or_eq_true] at h ⊢
  refine h.imp_right fun habove => ?_
  obtain ⟨f, hf, hd⟩ := List.any_eq_true.1 habove
  by_cases hplace : f.1 = p
  · exact List.any_eq_true.2 ⟨(p, text), List.mem_cons_self, hplace ▸ hd⟩
  · refine List.any_eq_true.2 ⟨f, List.mem_cons_of_mem _ (List.mem_filter.2 ⟨hf, ?_⟩), hd⟩
    exact bne_iff_ne.2 hplace

/-- What is found at the place of a file that was put there. -/
theorem lookup?_putAt_self :
    (t.putAt p text).lookup? p = some (if p = .null then "" else text) := by
  unfold lookup? putAt
  split
  · rfl
  · simp

/-- A step that succeeded succeeds after a file was put anywhere. -/
theorem enter_putAt {d e : Place} {name : String} (h : t.enter d name = .ok e) :
    (t.putAt p text).enter d name = .ok e := by
  unfold enter at h ⊢
  split at h
  · next hup => rw [if_pos hup, h]
  · next hup =>
    rw [if_neg hup]
    split at h
    · next hdots => rw [if_pos hdots, h]
    · next hdots =>
      rw [if_neg hdots]
      cases hchild : child d name with
      | error f =>
          rw [hchild] at h
          cases h
      | ok c =>
          rw [hchild] at h
          change (if t.isDirectory c then Except.ok c else _) = Except.ok e at h
          show (if (t.putAt p text).isDirectory c then Except.ok c else _) = Except.ok e
          by_cases hdirectory : t.isDirectory c = true
          · rw [if_pos hdirectory] at h
            rw [if_pos (isDirectory_putAt hdirectory), h]
          · rw [if_neg hdirectory] at h
            split at h <;> cases h

/-- A walk that succeeded succeeds after a file was put anywhere. -/
theorem enterAll_putAt {names : List String} {d e : Place} (h : t.enterAll d names = .ok e) :
    (t.putAt p text).enterAll d names = .ok e := by
  unfold enterAll at h ⊢
  induction names generalizing d with
  | nil => exact h
  | cons name names ih =>
      rw [List.foldlM_cons] at h ⊢
      cases hstep : t.enter d name with
      | error f =>
          rw [hstep] at h
          cases h
      | ok c =>
          rw [hstep] at h
          rw [enter_putAt hstep]
          exact ih h

/-- A step that succeeds leads to where it leads whatever is there. -/
theorem eq_of_enter {d e : Place} {name : String} (h : t.enter d name = .ok e) :
    e = d.step name := by
  unfold enter at h
  unfold Place.step
  split at h
  · next hup =>
    subst hup
    cases h
    rfl
  · next hup =>
    split at h
    · next hdots =>
      cases h
      have hstay : name = "" ∨ name = "." := by simpa [isDots, hup] using hdots
      rw [if_pos hstay]
    · next hdots =>
      have hgo : ¬(name = "" ∨ name = ".") := fun hstay => hdots (by simp [isDots, *])
      rw [if_neg hgo, if_neg hup]
      unfold child at h
      split at h
      · cases h
      · simp only [bind, Except.bind] at h
        split at h
        · cases h
          rfl
        · split at h <;> cases h

/-- A walk that succeeds leads to where it leads whatever is there. -/
theorem eq_of_enterAll {names : List String} {d e : Place} (h : t.enterAll d names = .ok e) :
    e = names.foldl Place.step d := by
  unfold enterAll at h
  induction names generalizing d with
  | nil =>
      cases h
      rfl
  | cons name names ih =>
      rw [List.foldlM_cons] at h
      cases hstep : t.enter d name with
      | error f =>
          rw [hstep] at h
          cases h
      | ok c =>
          rw [hstep] at h
          rw [List.foldl_cons, ← eq_of_enter hstep]
          exact ih h

-- =================================================== reading and writing

/-- A path leads to a place, through directories and by a last name that stands for
no directory. -/
def Leads (t : FileTree) (path : String) (p : Place) : Prop :=
  ∃ start names directory, t.steps path = .ok (start, names)
    ∧ t.enterAll start names.dropLast = .ok directory
    ∧ isDots (names.getLast?.getD "") = false
    ∧ child directory (names.getLast?.getD "") = .ok p

namespace Leads

variable {path : String} {q : Place}

/-- A path leads to the same place after a file was put anywhere. -/
theorem putAt (h : t.Leads path p) : (t.putAt q text).Leads path p := by
  obtain ⟨start, names, directory, hsteps, hwalk, hdots, hchild⟩ := h
  exact ⟨start, names, directory, hsteps, enterAll_putAt hwalk, hdots, hchild⟩

/-- A path leads to where it leads whatever is there. -/
theorem ofPath_eq (h : t.Leads path p) : Place.ofPath t.start path = p := by
  obtain ⟨start, names, directory, hsteps, hwalk, hdots, hchild⟩ := h
  have hwhole : Place.ofPath t.start path = names.foldl Place.step start := by
    unfold steps at hsteps
    split at hsteps
    · cases hsteps
    split at hsteps
    · cases hsteps
    split at hsteps <;> cases hsteps
    rfl
  have hp : p = directory ++ [names.getLast?.getD ""] := by
    unfold child at hchild
    split at hchild <;> cases hchild
    rfl
  rw [hwhole, hp, eq_of_enterAll hwalk]
  rcases List.eq_nil_or_concat names with rfl | ⟨before, name, rfl⟩
  · cases hdots
  · rw [List.concat_eq_append, List.getLast?_concat, Option.getD_some] at hdots ⊢
    rw [List.dropLast_concat, List.foldl_append]
    have hgo : ¬(name = "" ∨ name = ".") ∧ name ≠ ".." := by
      simpa [isDots, or_assoc, and_assoc] using hdots
    exact (if_neg hgo.1).trans (if_neg hgo.2)

theorem read_eq (h : t.Leads path p) (hfound : t.lookup? p = some text) :
    t.read path = .ok text := by
  obtain ⟨start, names, directory, hsteps, hwalk, hdots, hchild⟩ := h
  unfold read
  rw [hsteps]
  simp only [bind, Except.bind]
  rw [hwalk]
  dsimp only
  rw [hdots, hchild]
  simp only [Bool.false_eq_true, if_false]
  rw [hfound]
  rfl

theorem write_eq (h : t.Leads path p) (hfree : t.isDirectory p = false) (text : String) :
    t.write path text = .ok (t.putAt p text) := by
  obtain ⟨start, names, directory, hsteps, hwalk, hdots, hchild⟩ := h
  have hslashes : names.reverse.takeWhile (· == "") = [] := by
    rcases List.eq_nil_or_concat names with rfl | ⟨before, name, rfl⟩
    · rfl
    · rw [List.concat_eq_append, List.getLast?_concat, Option.getD_some] at hdots
      have hname : name ≠ "" := by
        rintro rfl
        cases hdots
      simp [hname]
  unfold write
  rw [hsteps]
  simp only [bind, Except.bind]
  rw [hslashes, List.length_nil, Nat.sub_zero, List.take_length, hwalk]
  simp only [hdots, hchild, hfree]
  rfl

end Leads

/-- Whatever is written, it is put to the place that the path leads to. -/
theorem exists_of_write {path : String} {t' : FileTree} (h : t.write path text = .ok t') :
    ∃ p, t.Leads path p ∧ t.isDirectory p = false ∧ t' = t.putAt p text := by
  unfold write at h
  cases hsteps : t.steps path with
  | error f =>
      rw [hsteps] at h
      cases h
  | ok walk =>
      obtain ⟨start, names⟩ := walk
      rw [hsteps] at h
      simp only [bind, Except.bind] at h
      generalize hslashes : names.reverse.takeWhile (· == "") = slashes at h
      split at h
      · cases h
      next directory hwalk =>
      split at h
      · cases h
      next hname =>
      rw [not_or, ne_eq, Classical.not_not] at hname
      obtain ⟨hdots, rfl⟩ := hname
      rw [List.length_nil, Nat.sub_zero, List.take_length] at hwalk hdots h
      split at h
      · cases h
      next p hchild =>
      split at h
      · cases h
      next hfree =>
      cases h
      exact ⟨p, ⟨start, names, directory, hsteps, hwalk, Bool.eq_false_iff.2 hdots, hchild⟩,
        Bool.eq_false_iff.2 hfree, rfl⟩

/-- Where one text can be written, any other can. -/
theorem write_of_write {path : String} {t' : FileTree} (h : t.write path text = .ok t')
    (other : String) : ∃ t'', t.write path other = .ok t'' := by
  obtain ⟨p, hleads, hfree, -⟩ := exists_of_write h
  exact ⟨_, hleads.write_eq hfree other⟩

/-- What was written to a path is read from it, unless it leads to the file that is
always empty. -/
theorem read_write {path : String} {t' : FileTree} (h : t.write path text = .ok t') :
    t'.read path = .ok (if Place.ofPath t.start path = .null then "" else text) := by
  obtain ⟨p, hleads, -, rfl⟩ := exists_of_write h
  rw [hleads.ofPath_eq]
  exact hleads.putAt.read_eq lookup?_putAt_self

end FileTree

end Stagecraft
