/-
The numbering of a tween queue.

A queue hands out numbers in ascending order and appends the tween that
gets one, and every other operation only takes tasks out of their places.
So the numbers of the queued tasks ascend in queue order and lie below
the number that is handed out next (`Numbered`). The invariant survives
whatever shrinks the list of numbers (`Numbered.of_sublist`), which is
how all operations but `push` keep it.

Two things follow that a holder of a handle relies on: at most one task
answers to a number, and a number that is handed out answers to no task
queued before.
-/
import Mathlib.Data.List.Nodup
import Stagecraft.Proofs.Tweens.Advance

namespace Stagecraft.TweenQueue

variable {κ α : Type}

-- ========================================================= the invariant

/-- The numbers ascend in queue order, and the next one is above them. -/
structure Numbered (q : TweenQueue κ α) : Prop where
  ascending : q.ids.Pairwise fun i j => i.number < j.number
  below : ∀ id ∈ q.ids, id.number < q.next

theorem numbered_empty : (empty : TweenQueue κ α).Numbered :=
  ⟨List.Pairwise.nil, fun _ h => absurd h List.not_mem_nil⟩

/-- A number of a numbered queue stands for one task. -/
theorem Numbered.nodup {q : TweenQueue κ α} (h : q.Numbered) : q.ids.Nodup := by
  refine h.ascending.imp ?_
  rintro i j hlt rfl
  exact absurd hlt (Nat.lt_irrefl _)

/-- The number that is handed out next stands for no task. -/
theorem Numbered.fresh {q : TweenQueue κ α} (h : q.Numbered) : (⟨q.next⟩ : TweenId) ∉ q.ids :=
  fun hmem => absurd (h.below _ hmem) (Nat.lt_irrefl _)

/-- Taking tasks out of their places keeps the numbering. -/
theorem Numbered.of_sublist {q r : TweenQueue κ α} (h : q.Numbered)
    (hids : List.Sublist r.ids q.ids) (hnext : r.next = q.next) : r.Numbered := by
  refine ⟨h.ascending.sublist hids, fun id hid => ?_⟩
  rw [hnext]
  exact h.below id (hids.subset hid)

-- ======================================================== the operations

theorem ids_push (q : TweenQueue κ α) (t : Tween κ α) :
    (q.push t).2.ids = q.ids ++ [⟨q.next⟩] := by
  unfold ids push
  rw [List.map_append]
  rfl

theorem numbered_push {q : TweenQueue κ α} (h : q.Numbered) (t : Tween κ α) :
    (q.push t).2.Numbered := by
  constructor
  · rw [ids_push, List.pairwise_append]
    refine ⟨h.ascending, List.pairwise_singleton _ _, ?_⟩
    intro i hi j hj
    rw [List.mem_singleton] at hj
    subst hj
    exact h.below i hi
  · intro id hid
    rw [ids_push, List.mem_append, List.mem_singleton] at hid
    show id.number < q.next + 1
    rcases hid with hid | rfl
    · exact Nat.lt_succ_of_lt (h.below id hid)
    · exact Nat.lt_succ_self _

/-- A tween put in the place of another takes its number. -/
theorem ids_set (q : TweenQueue κ α) (id : TweenId) (t : Tween κ α) :
    (q.set id t).ids = q.ids := by
  unfold ids set
  rw [List.map_map]
  refine List.map_congr_left fun p _ => ?_
  dsimp only [Function.comp]
  split
  next heq => exact (beq_iff_eq.1 heq).symm
  next => rfl

/-- A cancelled task leaves with its number, the others keep their order. -/
theorem ids_cancel (q : TweenQueue κ α) (id : TweenId) : (q.cancel id).ids = q.ids.erase id := by
  unfold ids cancel
  induction q.tasks with
  | nil => rfl
  | cons p rest ih =>
      rw [List.eraseP_cons, List.map_cons, List.erase_cons]
      cases hp : p.1 == id with
      | true => rfl
      | false => exact congrArg (p.1 :: ·) ih

theorem numbered_cancel {q : TweenQueue κ α} (h : q.Numbered) (id : TweenId) :
    (q.cancel id).Numbered := by
  refine h.of_sublist ?_ rfl
  rw [ids_cancel]
  exact List.erase_sublist

theorem numbered_clear {q : TweenQueue κ α} (h : q.Numbered) : q.clear.Numbered :=
  h.of_sublist (List.nil_sublist _) rfl

/-- What a lookup finds is queued under the number. -/
theorem mem_of_get? {q : TweenQueue κ α} {id : TweenId} {t : Tween κ α}
    (h : q.get? id = some t) : (id, t) ∈ q.tasks := by
  unfold get? at h
  obtain ⟨p, hp, rfl⟩ := Option.map_eq_some_iff.1 h
  have hid : p.1 = id := by simpa using List.find?_some hp
  rw [← hid]
  exact List.mem_of_find?_eq_some hp

/-- A lookup answers nothing exactly for numbers that are not queued. -/
theorem get?_eq_none_iff {q : TweenQueue κ α} {id : TweenId} :
    q.get? id = none ↔ id ∉ q.ids := by
  unfold get? ids
  rw [Option.map_eq_none_iff, List.find?_eq_none]
  constructor
  · intro h hmem
    obtain ⟨p, hp, rfl⟩ := List.mem_map.1 hmem
    exact h p hp (by simp)
  · intro h p hp heq
    refine h ?_
    rw [← beq_iff_eq.1 heq]
    exact List.mem_map_of_mem hp

/-- A queue contains the numbers of its tasks. -/
theorem contains_iff {q : TweenQueue κ α} {id : TweenId} :
    q.contains id = true ↔ id ∈ q.ids := by
  unfold contains
  rw [Option.isSome_iff_ne_none, Ne, get?_eq_none_iff]
  exact not_not

/-- A task of a numbered queue is what a lookup of its number finds. -/
theorem Numbered.get?_eq_some {q : TweenQueue κ α} (h : q.Numbered) {p : Task κ α}
    (hp : p ∈ q.tasks) : q.get? p.1 = some p.2 := by
  cases hget : q.get? p.1 with
  | none => exact absurd (List.mem_map_of_mem hp) (get?_eq_none_iff.1 hget)
  | some t =>
      have hmem := mem_of_get? hget
      have heq := List.inj_on_of_nodup_map h.nodup hmem hp rfl
      exact congrArg (fun r : Task κ α => some r.2) heq

section Elementary

variable [Elementary α]

theorem numbered_animate {q : TweenQueue κ α} (h : q.Numbered) (t : Tween κ α) :
    (q.animate t).2.Numbered := by
  unfold animate
  split
  · exact h
  · exact numbered_push h t

theorem numbered_advance {q : TweenQueue κ α} (h : q.Numbered) (dt : α) (s : Stage α) :
    (q.advance dt s).2.1.Numbered := by
  rw [advance_eq]
  exact h.of_sublist (ids_rebuilt_sublist q dt) rfl

end Elementary

end Stagecraft.TweenQueue
