/-
Texts and their lines.

Cutting a text walks over it by byte positions. What it answers can be said of
the list of characters alone (`splitOn_singleton`): the invariant of the walk
is that the text is what has been cut off, then the piece that is open, then
the rest, and that both positions are the lengths in bytes of what lies before
them. Everything else about lines is then said of lists: a text in which every
line is followed by the end of line has these lines, and an empty one at its
end (`splitOn_flatMap`).
-/
import Mathlib.Data.String.Basic

namespace Stagecraft.Text

open String (utf8Len)

-- ============================================================ the separator

private theorem get_separator (c : Char) : String.Pos.Raw.get (String.singleton c) 0 = c := by
  rw [String.singleton_eq_ofList]
  exact String.get_of_valid [] [c]

private theorem next_separator (c : Char) :
    String.Pos.Raw.next (String.singleton c) 0 = ⟨c.utf8Size⟩ := by
  rw [String.singleton_eq_ofList]
  refine (String.next_of_valid [] c []).trans ?_
  rw [String.utf8Len_nil, Nat.zero_add]

private theorem atEnd_separator (c : Char) :
    String.Pos.Raw.atEnd (String.singleton c) ⟨c.utf8Size⟩ = true := by
  rw [String.singleton_eq_ofList]
  have h := (String.atEnd_of_valid [c] []).2 rfl
  rwa [String.utf8Len_cons, String.utf8Len_nil, Nat.zero_add] at h

-- =============================================================== the walk

private theorem splitOnAux_singleton (c : Char) (r : List Char) :
    ∀ (l m : List Char) (acc : List String),
    String.splitOnAux (String.ofList (l ++ m ++ r)) (String.singleton c) ⟨utf8Len l⟩
        ⟨utf8Len l + utf8Len m⟩ 0 acc
      = acc.reverse ++ (List.splitOnPPrepend (· == c) r m.reverse).map String.ofList := by
  induction r with
  | nil =>
      intro l m acc
      have hend : String.Pos.Raw.atEnd (String.ofList (l ++ m ++ []))
          ⟨utf8Len l + utf8Len m⟩ = true := by
        rw [← String.utf8Len_append]
        exact (String.atEnd_of_valid (l ++ m) []).2 rfl
      rw [String.splitOnAux, if_pos hend, String.extract_of_valid l m []]
      simp
  | cons d r ih =>
      intro l m acc
      have hend : ¬String.Pos.Raw.atEnd (String.ofList (l ++ m ++ d :: r))
          ⟨utf8Len l + utf8Len m⟩ = true := by
        rw [← String.utf8Len_append, String.atEnd_of_valid]
        exact List.cons_ne_nil _ _
      have hget : String.Pos.Raw.get (String.ofList (l ++ m ++ d :: r))
          ⟨utf8Len l + utf8Len m⟩ = d := by
        rw [← String.utf8Len_append, String.get_of_valid]
        rfl
      have hnext : String.Pos.Raw.next (String.ofList (l ++ m ++ d :: r))
          ⟨utf8Len l + utf8Len m⟩ = ⟨utf8Len l + utf8Len m + d.utf8Size⟩ := by
        rw [← String.utf8Len_append, String.next_of_valid]
      rw [String.splitOnAux, if_neg hend, hget, get_separator, hnext, next_separator,
        List.splitOnPPrepend_cons_eq_if]
      dsimp only
      rw [atEnd_separator, if_pos rfl]
      by_cases hdc : d = c
      · subst hdc
        have hback : (⟨utf8Len l + utf8Len m + d.utf8Size⟩ : String.Pos.Raw).unoffsetBy ⟨d.utf8Size⟩
            = ⟨utf8Len l + utf8Len m⟩ := by
          simp [String.Pos.Raw.unoffsetBy]
        have htext : l ++ m ++ d :: r = (l ++ m ++ [d]) ++ [] ++ r := by simp
        have hlen : utf8Len l + utf8Len m + d.utf8Size = utf8Len (l ++ m ++ [d]) := by
          simp [Nat.add_assoc]
        rw [if_pos (beq_self_eq_true d), if_pos (beq_self_eq_true d), hback,
          String.extract_of_valid l m (d :: r), htext, hlen]
        refine (ih (l ++ m ++ [d]) [] (String.ofList m :: acc)).trans ?_
        simp
      · have hne : ¬(d == c) = true := by simpa using hdc
        have hback : (⟨utf8Len l + utf8Len m⟩ : String.Pos.Raw).unoffsetBy 0
            = ⟨utf8Len l + utf8Len m⟩ := rfl
        have htext : l ++ m ++ d :: r = l ++ (m ++ [d]) ++ r := by simp
        have hlen : utf8Len l + utf8Len m + d.utf8Size = utf8Len l + utf8Len (m ++ [d]) := by
          simp [Nat.add_assoc]
        rw [if_neg hne, if_neg hne, hback, hnext, htext, hlen]
        refine (ih l (m ++ [d]) acc).trans ?_
        rw [List.reverse_append]
        rfl

/-- Cutting a text at a character is cutting the list of its characters. -/
theorem splitOn_singleton (text : String) (c : Char) :
    (text.splitOn (String.singleton c)).map String.toList = text.toList.splitOn c := by
  have hsep : (String.singleton c == "") = false := by
    rw [beq_eq_false_iff_ne, String.singleton_eq_ofList]
    intro h
    have := congrArg String.toList h
    rw [String.toList_ofList] at this
    cases this
  have hcut := splitOnAux_singleton c text.toList [] [] []
  rw [List.nil_append, List.nil_append, String.ofList_toList] at hcut
  unfold String.splitOn
  rw [hsep, if_neg Bool.false_ne_true]
  refine (congrArg (List.map String.toList) hcut).trans ?_
  rw [List.reverse_nil, List.nil_append, List.map_map]
  have hid : String.toList ∘ String.ofList = id := funext fun cs => String.toList_ofList
  rw [hid, List.map_id]
  rfl

theorem splitOn_eq (text : String) (c : Char) :
    text.splitOn (String.singleton c) = (text.toList.splitOn c).map String.ofList := by
  rw [← splitOn_singleton, List.map_map]
  exact ((List.map_congr_left fun s _ => String.ofList_toList).trans (List.map_id _)).symm

-- ================================================================== lines

/-- Pieces that are each followed by the separator are found again, with an empty one
behind them. -/
theorem splitOn_flatMap {c : Char} {pieces : List (List Char)} (h : ∀ piece ∈ pieces, c ∉ piece) :
    (pieces.flatMap (· ++ [c])).splitOn c = pieces ++ [[]] := by
  have hjoin : [c].intercalate (pieces ++ [[]]) = pieces.flatMap (· ++ [c]) := by
    clear h
    induction pieces with
    | nil => rfl
    | cons piece rest ih =>
        have hne : rest ++ [[]] ≠ [] := List.append_ne_nil_of_right_ne_nil _ (List.cons_ne_nil _ _)
        rw [List.cons_append, List.intercalate_cons_of_ne_nil hne, ih, List.flatMap_cons]
  rw [← hjoin]
  refine List.splitOn_intercalate c ?_ (by simp)
  intro piece hpiece
  rcases List.mem_append.1 hpiece with hmem | hmem
  · exact h piece hmem
  · rw [List.mem_singleton.1 hmem]
    exact List.not_mem_nil

end Stagecraft.Text
