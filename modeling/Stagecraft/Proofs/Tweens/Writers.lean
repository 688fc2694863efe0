/-
Which task decides an attribute that many tasks write.

The tasks of a queue may animate the same record, and the same attribute of
it. An advance steps them in queue order, and each writes over what is
there. But what a task writes comes from its own tracks and its own time,
and not from the record (`Tween.valueAt`): all that it asks of the record is
that the attribute is there, and no write makes or takes away an attribute.
So an attribute is decided by the last task that writes it, and whoever
wrote it before might as well not have (`attr?_foldl_play_of_last`).

For the same reason two tasks that have no attribute in common may change
places. Writes to different puppets, or to a record under different names,
commute (`Stage.setAttr_comm`); so do lists of them, and a step is a list of
writes. This says more than that all attributes come out the same: it is the
same stage.
-/
import Stagecraft.Proofs.Exact
import Stagecraft.Proofs.Tweens.Records

namespace Stagecraft

variable {κ α : Type}

-- ============================================================ the stage

namespace Stage

variable [Scalar α] {s : Stage α} {i j : PuppetId} {name other : String} {v w : AttrValue α}

/-- No write changes the size of an image. -/
theorem sizeOf_setAttr (s : Stage α) (i : PuppetId) (name : String) (v : AttrValue α) :
    (s.setAttr i name v).sizeOf = s.sizeOf := by
  funext image
  unfold sizeOf image?
  rw [images_setAttr]

omit [Scalar α] in
/-- A stage is known by its images and its puppets. -/
theorem ext_puppet? {s t : Stage α} (himages : s.images = t.images)
    (hpuppets : ∀ i, s.puppet? i = t.puppet? i) : s = t := by
  obtain ⟨images, puppets⟩ := s
  obtain ⟨images', puppets'⟩ := t
  obtain rfl : images = images' := himages
  obtain rfl : puppets = puppets' := Array.ext_getElem? fun n => hpuppets ⟨n⟩
  rfl

/-- A write gives a record no attribute that it does not have. -/
theorem isSome_attr?_setAttr (h : s.HasRecord i) (j : PuppetId) (name : String)
    (v : AttrValue α) (other : String) :
    ((s.setAttr j name v).attr? i other).isSome = (s.attr? i other).isSome := by
  obtain ⟨m, hm⟩ := h
  unfold attr?
  rw [puppet?_setAttr, hm]
  split
  · exact m.isSome_attr?_setAttr name other v
  · rfl

theorem isSome_attr?_setAttrs (h : s.HasRecord i) (j : PuppetId)
    (l : List (String × AttrValue α)) :
    ((s.setAttrs j l).attr? i name).isSome = (s.attr? i name).isSome := by
  induction l generalizing s with
  | nil => rfl
  | cons e rest ih =>
      exact (ih (h.setAttr j e.1 e.2)).trans (isSome_attr?_setAttr h j e.1 e.2 name)

/-- Writes to different puppets change places, and so do writes to a record under
different names. -/
theorem setAttr_comm (hne : i ≠ j ∨ s.HasRecord i ∧ name ≠ other) :
    (s.setAttr i name v).setAttr j other w = (s.setAttr j other w).setAttr i name v := by
  refine ext_puppet? (by simp only [images_setAttr]) fun k => ?_
  simp only [puppet?_setAttr, sizeOf_setAttr]
  by_cases hi : i = k
  · subst hi
    by_cases hj : j = i
    · -- one puppet, which is a record then
      subst hj
      obtain ⟨⟨m, hm⟩, hname⟩ := hne.resolve_left (absurd rfl)
      simp only [if_true, hm, Option.map_some]
      exact congrArg (some ∘ Puppet.record) (AttributeMap.setAttr_comm hname v w)
    · rw [if_neg hj, if_neg hj]
  · simp only [if_neg hi]

theorem setAttrs_setAttr_comm {l : List (String × AttrValue α)}
    (hne : i ≠ j ∨ s.HasRecord i ∧ name ∉ l.map Prod.fst) :
    (s.setAttr i name v).setAttrs j l = (s.setAttrs j l).setAttr i name v := by
  induction l generalizing s with
  | nil => rfl
  | cons e rest ih =>
      rw [List.map_cons, List.mem_cons, not_or] at hne
      have hfirst := setAttr_comm (v := v) (w := e.2) (hne.imp_right (And.imp_right And.left))
      have hrest := ih (hne.imp_right fun h => ⟨h.1.setAttr j e.1 e.2, h.2.2⟩)
      calc (s.setAttr i name v).setAttrs j (e :: rest)
          = ((s.setAttr i name v).setAttr j e.1 e.2).setAttrs j rest := rfl
        _ = ((s.setAttr j e.1 e.2).setAttr i name v).setAttrs j rest := by rw [hfirst]
        _ = (s.setAttrs j (e :: rest)).setAttr i name v := hrest

theorem setAttrs_comm {k l : List (String × AttrValue α)}
    (hne : i ≠ j ∨ s.HasRecord i ∧ ∀ e ∈ k, e.1 ∉ l.map Prod.fst) :
    (s.setAttrs i k).setAttrs j l = (s.setAttrs j l).setAttrs i k := by
  induction k generalizing s with
  | nil => rfl
  | cons e rest ih =>
      have hfirst : (s.setAttr i e.1 e.2).setAttrs j l = (s.setAttrs j l).setAttr i e.1 e.2 :=
        setAttrs_setAttr_comm (hne.imp_right fun h => ⟨h.1, h.2 e List.mem_cons_self⟩)
      have hrest := ih (s := s.setAttr i e.1 e.2) (hne.imp_right fun h =>
        ⟨h.1.setAttr i e.1 e.2, fun r hr => h.2 r (List.mem_cons_of_mem _ hr)⟩)
      calc (s.setAttrs i (e :: rest)).setAttrs j l
          = ((s.setAttr i e.1 e.2).setAttrs j l).setAttrs i rest := hrest
        _ = ((s.setAttrs j l).setAttr i e.1 e.2).setAttrs i rest := by rw [hfirst]

end Stage

variable [Elementary α]

-- ============================================================== one step

/-- Where the tween has an attribute at an elapsed time. -/
def Tween.valueAt (t : Tween κ α) (elapsed : α) (a : Track α) : AttrValue α :=
  if t.duration < elapsed then a.stop
  else a.start.interpolate a.stop (t.easing.apply (elapsed / t.duration))

/-- A step writes for each attribute where the tween has it then. -/
theorem Tween.values_moved (t : Tween κ α) (dt : α) :
    (t.moved dt).values = t.tracks.map fun a => (a.name, t.valueAt (t.elapsed + dt) a) := by
  unfold Tween.values Tween.valueAt
  by_cases hover : t.duration < t.elapsed + dt
  · simp only [if_pos hover]
    exact if_pos hover
  · simp only [if_neg hover]
    exact if_neg hover

theorem Task.isSome_attr?_play {s : Stage α} {i : PuppetId} (h : s.HasRecord i) (dt : α)
    (p : Task κ α) (name : String) :
    ((p.play dt s).attr? i name).isSome = (s.attr? i name).isSome :=
  Stage.isSome_attr?_setAttrs h _ _

/-- Tasks with no attribute in common may change places. -/
theorem Task.play_comm {a b : Task κ α} {s : Stage α} (hrecord : s.HasRecord a.2.target)
    (hapart : ∀ i name, ¬(a.Writes i name ∧ b.Writes i name)) (dt : α) :
    b.play dt (a.play dt s) = a.play dt (b.play dt s) := by
  refine Stage.setAttrs_comm ?_
  by_cases htarget : a.2.target = b.2.target
  · refine .inr ⟨hrecord, fun e he hmem => ?_⟩
    have hname : e.1 ∈ a.2.names := by
      have hfirst := List.mem_map_of_mem (f := Prod.fst) he
      rwa [Tween.map_fst_values] at hfirst
    rw [Tween.map_fst_values] at hmem
    exact hapart a.2.target e.1 ⟨⟨rfl, hname⟩, htarget.symm, hmem⟩
  · exact .inl htarget

namespace TweenQueue

-- ============================================================ whole passes

variable {q : TweenQueue κ α} {s : Stage α} {i : PuppetId} {name : String} {dt : α}

private theorem hasRecord_foldl_play (h : s.HasRecord i) (dt : α) (tasks : List (Task κ α)) :
    (tasks.foldl (Task.play dt) s).HasRecord i := by
  induction tasks generalizing s with
  | nil => exact h
  | cons p rest ih => exact ih (Task.hasRecord_play h dt p)

private theorem isSome_attr?_foldl_play (h : s.HasRecord i) (dt : α) (tasks : List (Task κ α)) :
    ((tasks.foldl (Task.play dt) s).attr? i name).isSome = (s.attr? i name).isSome := by
  induction tasks generalizing s with
  | nil => rfl
  | cons p rest ih =>
      exact (ih (Task.hasRecord_play h dt p)).trans (Task.isSome_attr?_play h dt p name)

private theorem attr?_foldl_play (h : s.HasRecord i) (dt : α) {tasks : List (Task κ α)}
    (hquiet : ∀ p ∈ tasks, ¬p.Writes i name) :
    (tasks.foldl (Task.play dt) s).attr? i name = s.attr? i name := by
  induction tasks generalizing s with
  | nil => rfl
  | cons p rest ih =>
      have hrest := ih (Task.hasRecord_play h dt p)
        fun r hr => hquiet r (List.mem_cons_of_mem _ hr)
      exact hrest.trans (Task.attr?_play_of_not_writes h (hquiet p List.mem_cons_self) dt)

/-- What the last writer writes stays. -/
private theorem attr?_foldl_play_of_last {before behind : List (Task κ α)} {p : Task κ α}
    {v : AttrValue α} (h : s.HasRecord p.2.target) (hname : (s.attr? p.2.target name).isSome)
    (hnodup : p.2.names.Nodup) (hv : (name, v) ∈ (p.2.moved dt).values)
    (hlast : ∀ r ∈ behind, ¬r.Writes p.2.target name) :
    ((before ++ p :: behind).foldl (Task.play dt) s).attr? p.2.target name = some v := by
  have hbefore := hasRecord_foldl_play h dt before
  rw [List.foldl_append, List.foldl_cons,
    attr?_foldl_play (Task.hasRecord_play hbefore dt p) dt hlast]
  refine Task.attr?_play_of_writes hbefore ?_ hnodup hv
  rw [isSome_attr?_foldl_play h]
  exact hname

theorem hasRecord_played (h : s.HasRecord i) (q : TweenQueue κ α) (dt : α) :
    (q.played dt s).HasRecord i := hasRecord_foldl_play h dt q.live

/-- An attribute that no live task writes keeps its value. -/
theorem attr?_played_of_quiet (h : s.HasRecord i) (hquiet : ∀ p ∈ q.live, ¬p.Writes i name) :
    (q.played dt s).attr? i name = s.attr? i name := attr?_foldl_play h dt hquiet

/-- An attribute that one live task alone writes has the value that this task
gives it. -/
theorem attr?_played_of_writer (hq : q.Numbered) {p : Task κ α} {v : AttrValue α}
    (hp : p ∈ q.live) (h : s.HasRecord p.2.target) (hname : (s.attr? p.2.target name).isSome)
    (hnodup : p.2.names.Nodup) (hv : (name, v) ∈ (p.2.moved dt).values)
    (halone : ∀ r ∈ q.live, r.1 ≠ p.1 → ¬r.Writes p.2.target name) :
    (q.played dt s).attr? p.2.target name = some v := by
  have hids : (q.live.map Prod.fst).Nodup := hq.nodup.sublist (List.filter_sublist.map Prod.fst)
  obtain ⟨before, behind, hsplit⟩ := List.append_of_mem hp
  rw [hsplit, List.map_append, List.map_cons, List.nodup_middle, List.nodup_cons,
    ← List.map_append] at hids
  unfold played
  rw [hsplit]
  refine attr?_foldl_play_of_last h hname hnodup hv fun r hr => ?_
  have hlive : r ∈ q.live := by
    rw [hsplit]
    exact List.mem_append_right _ (List.mem_cons_of_mem _ hr)
  exact halone r hlive fun heq =>
    hids.1 (heq ▸ List.mem_map_of_mem (List.mem_append_right _ hr))

/-- The queue with two neighbours in each other's places plays the same. -/
theorem played_swap {before behind : List (Task κ α)} {a b : Task κ α}
    (hsplit : q.tasks = before ++ a :: b :: behind) (hrecord : s.HasRecord a.2.target)
    (hapart : ∀ i name, ¬(a.Writes i name ∧ b.Writes i name)) (dt : α) :
    ({ q with tasks := before ++ b :: a :: behind } : TweenQueue κ α).played dt s
      = q.played dt s := by
  unfold played live
  rw [hsplit]
  simp only [List.filter_append, List.filter_cons, List.foldl_append]
  have hbefore := hasRecord_foldl_play hrecord dt (before.filter Task.isLive)
  -- only where both of them are live is there anything to show
  split
  · split
    · simp only [List.foldl_cons]
      rw [Task.play_comm hbefore hapart]
    · rfl
  · rfl

end TweenQueue

-- ============================================================= the result

/-- The tasks of the queue animate records, by tweens as they are made. -/
structure TweenQueue.AnimatesRecords (q : TweenQueue κ α) (s : Stage α) : Prop where
  record : ∀ p ∈ q.tasks, s.HasRecord p.2.target
  made : ∀ p ∈ q.tasks, ∃ read requests, p.2.tracks = Tween.trackAll read requests

/-- What an advance makes of the records of a stage. -/
structure LastWriterDecides (q : TweenQueue κ α) (s : Stage α) (dt : α) : Prop where
  /-- An attribute is where the last of the tasks that were not done before has it,
  of those that track it. -/
  decided (before behind : List (Task κ α)) (p : Task κ α) (a : Track α)
    (hsplit : q.tasks = before ++ p :: behind) (hlive : p.2.isDone = false)
    (htrack : a ∈ p.2.tracks) (hhas : (s.attr? p.2.target a.name).isSome)
    (hlast : ∀ r ∈ behind, r.2.isDone = false → ¬r.Writes p.2.target a.name) :
    (q.advance dt s).2.2.attr? p.2.target a.name = some (p.2.valueAt (p.2.elapsed + dt) a)
  /-- Without such a task it stays where it was. -/
  undecided (i : PuppetId) (name : String) (hrecord : s.HasRecord i)
    (hnone : ∀ p ∈ q.tasks, p.2.isDone = false → ¬Task.Writes p i name) :
    (q.advance dt s).2.2.attr? i name = s.attr? i name
  /-- The records have no other attributes than before. -/
  sameNames (i : PuppetId) (name : String) (hrecord : s.HasRecord i) :
    ((q.advance dt s).2.2.attr? i name).isSome = (s.attr? i name).isSome
  /-- Neighbours with no attribute in common may change places. -/
  swapped (before behind : List (Task κ α)) (a b : Task κ α)
    (hsplit : q.tasks = before ++ a :: b :: behind)
    (hapart : ∀ i name, ¬(a.Writes i name ∧ b.Writes i name)) :
    (({ q with tasks := before ++ b :: a :: behind } : TweenQueue κ α).advance dt s).2.2
      = (q.advance dt s).2.2

open TweenQueue in
/-- Of the tasks that write an attribute the last one decides, and the order of two tasks counts
only if they write one in common. -/
theorem last_writer_decides {q : TweenQueue κ α} {s : Stage α} (h : q.AnimatesRecords s) (dt : α) :
    LastWriterDecides q s dt := by
  have hlive {tasks : List (Task κ α)} {r : Task κ α} (hr : r ∈ tasks.filter Task.isLive) :
      r ∈ tasks ∧ r.2.isDone = false := by
    obtain ⟨hmem, hdone⟩ := List.mem_filter.1 hr
    exact ⟨hmem, by simpa [Task.isLive] using hdone⟩
  constructor
  case decided =>
      intro before behind p a hsplit hdone htrack hhas hlast
      have hp : p ∈ q.tasks := by
        rw [hsplit]
        exact List.mem_append_right _ List.mem_cons_self
      obtain ⟨read, requests, htracks⟩ := h.made p hp
      have hnodup : p.2.names.Nodup := by
        unfold Tween.names
        rw [htracks]
        exact (Tween.trackAll_sound read requests).nodup
      have hvalue : (a.name, p.2.valueAt (p.2.elapsed + dt) a) ∈ (p.2.moved dt).values := by
        rw [Tween.values_moved]
        exact List.mem_map_of_mem (f := fun a => (a.name, p.2.valueAt (p.2.elapsed + dt) a)) htrack
      have hlivep : Task.isLive p = true := by
        unfold Task.isLive
        rw [hdone]
        rfl
      rw [advance_eq]
      unfold played live
      rw [hsplit, List.filter_append, List.filter_cons, if_pos hlivep]
      exact attr?_foldl_play_of_last (h.record p hp) hhas hnodup hvalue
        fun r hr => hlast r (hlive hr).1 (hlive hr).2
  case undecided =>
      intro i name hrecord hnone
      rw [advance_eq]
      exact attr?_played_of_quiet hrecord fun p hp => hnone p (hlive hp).1 (hlive hp).2
  case sameNames =>
      intro i name hrecord
      rw [advance_eq]
      exact isSome_attr?_foldl_play hrecord dt q.live
  case swapped =>
      intro before behind a b hsplit hapart
      have ha : a ∈ q.tasks := by
        rw [hsplit]
        exact List.mem_append_right _ List.mem_cons_self
      rw [advance_eq, advance_eq]
      exact played_swap hsplit (h.record a ha) hapart dt

/-- Two tasks that move one attribute, to 4 in two seconds and to 10 in one. -/
private noncomputable def twoWriters : TweenQueue ℕ ℝ :=
  ⟨[(⟨0⟩, ⟨⟨0⟩, [⟨"x", .scalar 0, .scalar 4.0⟩], 0, 2.0, .linear, none⟩),
    (⟨1⟩, ⟨⟨0⟩, [⟨"x", .scalar 0, .scalar 10.0⟩], 0, 1, .linear, none⟩)], 2⟩

/-- A stage with a record that has the attribute. -/
private def writtenTwice : Stage ℝ := { puppets := #[.record [("x", .scalar 0)]] }

/-- The second of the two tasks has the attribute half way to 10 after half a second. -/
theorem the_second_of_two_decides :
    (twoWriters.advance (1 / 2) writtenTwice).2.2.attr? ⟨0⟩ "x" = some (.scalar 5) := by
  have hanimates : twoWriters.AnimatesRecords writtenTwice := by
    let read : String → Option (AttrValue ℝ) := fun _ => some (.scalar 0)
    constructor
    · show ∀ p ∈ [_, _], _
      simp only [List.forall_mem_cons]
      exact ⟨⟨_, rfl⟩, ⟨_, rfl⟩, fun _ h => absurd h List.not_mem_nil⟩
    · show ∀ p ∈ [_, _], _
      simp only [List.forall_mem_cons]
      exact ⟨⟨read, [("x", .scalar 4.0)], rfl⟩, ⟨read, [("x", .scalar 10.0)], rfl⟩,
        fun _ h => absurd h List.not_mem_nil⟩
  have hlive : (⟨⟨0⟩, [⟨"x", .scalar 0, .scalar 10.0⟩], 0, 1, .linear, none⟩ :
      Tween ℕ ℝ).isDone = false := by
    unfold Tween.isDone
    norm_num
  refine ((last_writer_decides hanimates (1 / 2)).decided [_] [] _ _ rfl hlive
    List.mem_cons_self rfl fun _ h => absurd h List.not_mem_nil).trans ?_
  unfold Tween.valueAt Easing.apply AttrValue.interpolate
  norm_num

end Stagecraft
