/-
What an advance does to a queue, told without its loop.

`advanceTasks` walks the tasks once and threads the stage through; every
later statement about a pass wants the same three answers from it as
plain lists. A task is live unless it was done when the walk began. Each
live task is moved on by one step, whatever the others do: being done is
a matter of the tween alone, so the walk splits the moved tasks into
those that finish and those that stay, both in queue order, and the
stage is what playing the live tasks one after the other makes of it
(`advance_eq`).

The closed form is also what tells the fates of tasks apart. A walk loses
no number and makes none up: every queued number is among the dropped, the
finishing or the running ones, as often as it was queued
(`count_ids_advance`).
-/
import Stagecraft.Tween

namespace Stagecraft

/-- A queued tween with its number. -/
abbrev Task (κ α : Type) : Type := TweenId × Tween κ α

variable {κ α : Type}

-- ============================================================== one step

namespace Tween

variable [Elementary α]

/-- The tween after one step: only its elapsed time differs. -/
def moved (dt : α) (t : Tween κ α) : Tween κ α := { t with elapsed := t.elapsed + dt }

/-- A step moves the tween on, whatever the stage holds. -/
theorem fst_update (t : Tween κ α) (dt : α) (s : Stage α) : (t.update dt s).1 = t.moved dt := rfl

/-- A tween that has something to move is done once it exceeds its duration. -/
theorem isDone_eq {t : Tween κ α} (htracks : t.tracks.isEmpty = false) :
    t.isDone = decide (t.duration < t.elapsed) := by
  unfold isDone
  rw [htracks, Bool.false_or]

end Tween

namespace Task

variable [Elementary α]

/-- Whether a walk over the queue steps the task. -/
def isLive (p : Task κ α) : Bool := !p.2.isDone

/-- The task after one step. -/
def moved (dt : α) (p : Task κ α) : Task κ α := (p.1, p.2.moved dt)

/-- What is handed on of a task that finishes. -/
def finished (p : Task κ α) : FinishedTween κ := ⟨p.1, p.2.onComplete⟩

/-- The stage after one step of the task. -/
def play (dt : α) (s : Stage α) (p : Task κ α) : Stage α := (p.2.update dt s).2

end Task

-- ============================================================= the walk

/-- A test splits a list: what is counted is counted on one of the sides. -/
private theorem count_map_filter {β γ : Type} [BEq γ] (f : β → γ) (p : β → Bool) (l : List β)
    (c : γ) :
    (l.map f).count c
      = ((l.filter p).map f).count c + ((l.filter fun x => !p x).map f).count c := by
  have hperm := (List.filter_append_perm p l).symm.map f
  rw [hperm.count_eq, List.map_append, List.count_append]

namespace TweenQueue

/-- The numbers in queue order. -/
def ids (q : TweenQueue κ α) : List TweenId := q.tasks.map Prod.fst

variable [Elementary α]

/-- The tasks that an advance steps. -/
def live (q : TweenQueue κ α) : List (Task κ α) := q.tasks.filter Task.isLive

/-- The live tasks after their step. -/
def stepped (q : TweenQueue κ α) (dt : α) : List (Task κ α) := q.live.map (Task.moved dt)

/-- The tasks that their step makes done. -/
def finishing (q : TweenQueue κ α) (dt : α) : List (Task κ α) :=
  (q.stepped dt).filter fun p => p.2.isDone

/-- The tasks that run on after their step. -/
def running (q : TweenQueue κ α) (dt : α) : List (Task κ α) := (q.stepped dt).filter Task.isLive

/-- The stage after the steps of all live tasks, in queue order. -/
def played (q : TweenQueue κ α) (dt : α) (s : Stage α) : Stage α := q.live.foldl (Task.play dt) s

/-- The queue with the tasks that run on. -/
def rebuilt (q : TweenQueue κ α) (dt : α) : TweenQueue κ α := { q with tasks := q.running dt }

private theorem advanceTasks_eq (dt : α) (n : Nat) (tasks : List (Task κ α)) :
    ∀ s : Stage α, advanceTasks dt tasks s =
      (((⟨tasks, n⟩ : TweenQueue κ α).finishing dt).map Task.finished,
        (⟨tasks, n⟩ : TweenQueue κ α).running dt, (⟨tasks, n⟩ : TweenQueue κ α).played dt s) := by
  induction tasks with
  | nil => intro s; rfl
  | cons p rest ih =>
      intro s
      obtain ⟨id, t⟩ := p
      unfold advanceTasks
      cases hdone : t.isDone with
      | true =>
          -- done when the walk began: no list and no stage has it
          rw [if_pos rfl, ih s]
          simp [finishing, running, stepped, played, live, Task.isLive, hdone]
      | false =>
          rw [if_neg (by simp)]
          dsimp only
          rw [ih (t.update dt s).2, Tween.fst_update]
          cases hmoved : (t.moved dt).isDone with
          | true =>
              simp [finishing, running, stepped, played, live, Task.isLive, Task.moved, Task.play,
                Task.finished, hdone, hmoved]
          | false =>
              simp [finishing, running, stepped, played, live, Task.isLive, Task.moved, Task.play,
                hdone, hmoved]

/-- An advance in closed form: what finishes, what runs on, and the stage. -/
theorem advance_eq (q : TweenQueue κ α) (dt : α) (s : Stage α) :
    q.advance dt s = ((q.finishing dt).map Task.finished, q.rebuilt dt, q.played dt s) := by
  unfold advance rebuilt
  rw [advanceTasks_eq dt q.next q.tasks s]

-- ===================================================== where numbers go

/-- The tasks that were done before the walk, which drops them. -/
def stale (q : TweenQueue κ α) : List (Task κ α) := q.tasks.filter fun p => p.2.isDone

/-- A step keeps the number of its task. -/
theorem map_fst_stepped (q : TweenQueue κ α) (dt : α) :
    (q.stepped dt).map Prod.fst = q.live.map Prod.fst := by
  unfold stepped
  rw [List.map_map]
  rfl

/-- A task finishes exactly if it was queued, not done before its step, and
done after it. -/
theorem mem_ids_finishing {q : TweenQueue κ α} {dt : α} {id : TweenId} :
    id ∈ (q.finishing dt).map Prod.fst
      ↔ ∃ t, (id, t) ∈ q.tasks ∧ t.isDone = false ∧ (t.moved dt).isDone = true := by
  unfold finishing stepped live
  constructor
  · intro h
    obtain ⟨p, hp, rfl⟩ := List.mem_map.1 h
    obtain ⟨hstepped, hdone⟩ := List.mem_filter.1 hp
    obtain ⟨r, hr, rfl⟩ := List.mem_map.1 hstepped
    obtain ⟨hqueued, hlive⟩ := List.mem_filter.1 hr
    exact ⟨r.2, hqueued, by simpa [Task.isLive] using hlive, hdone⟩
  · rintro ⟨t, hqueued, hbefore, hafter⟩
    refine List.mem_map.2 ⟨Task.moved dt (id, t), ?_, rfl⟩
    refine List.mem_filter.2 ⟨List.mem_map_of_mem (List.mem_filter.2 ⟨hqueued, ?_⟩), hafter⟩
    simp [Task.isLive, hbefore]

/-- Only numbers of queued tasks finish. -/
theorem ids_finishing_subset (q : TweenQueue κ α) (dt : α) :
    (q.finishing dt).map Prod.fst ⊆ q.ids := by
  intro id hid
  obtain ⟨t, ht, -⟩ := mem_ids_finishing.1 hid
  exact List.mem_map_of_mem ht

/-- A live task finishes in its step or runs on after it. -/
theorem moved_mem_of_live {q : TweenQueue κ α} {p : Task κ α} (hp : p ∈ q.live) (dt : α) :
    p.moved dt ∈ q.finishing dt ∨ p.moved dt ∈ (q.rebuilt dt).tasks := by
  have hstepped : p.moved dt ∈ q.stepped dt := List.mem_map_of_mem hp
  cases hdone : (p.moved dt).2.isDone with
  | true => exact .inl (List.mem_filter.2 ⟨hstepped, hdone⟩)
  | false =>
      refine .inr (List.mem_filter.2 ⟨hstepped, ?_⟩)
      unfold Task.isLive
      rw [hdone]
      rfl

/-- What runs on stands in the order in which it was queued. -/
theorem ids_rebuilt_sublist (q : TweenQueue κ α) (dt : α) :
    List.Sublist (q.rebuilt dt).ids q.ids := by
  have hrunning : List.Sublist ((q.running dt).map Prod.fst) ((q.stepped dt).map Prod.fst) :=
    List.filter_sublist.map Prod.fst
  rw [map_fst_stepped] at hrunning
  exact hrunning.trans (List.filter_sublist.map Prod.fst)

/-- Every queued number is dropped, finishes or runs on, as often as it was
queued. -/
theorem count_ids_advance (q : TweenQueue κ α) (dt : α) (id : TweenId) :
    q.ids.count id = (q.stale.map Prod.fst).count id
      + ((q.finishing dt).map Prod.fst).count id + (q.rebuilt dt).ids.count id := by
  have hwalk : q.ids.count id
      = (q.stale.map Prod.fst).count id + (q.live.map Prod.fst).count id := by
    unfold ids stale live Task.isLive
    exact count_map_filter _ _ _ _
  have hstep : ((q.stepped dt).map Prod.fst).count id
      = ((q.finishing dt).map Prod.fst).count id + (q.rebuilt dt).ids.count id := by
    unfold ids rebuilt finishing running Task.isLive
    exact count_map_filter _ _ _ _
  rw [map_fst_stepped] at hstep
  omega

end TweenQueue

end Stagecraft
