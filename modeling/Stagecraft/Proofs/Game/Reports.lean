/-
Which tweens are reported.

A tween comes to its end in one of two ways: the pass of a frame steps it
past its duration, or someone steps it past its duration alone, between two
passes. A pass reports what its own step has ended. What it finds over it
takes out of the queue, as it takes out tweens that had nothing to move when
they were queued, and says nothing: the completion callback is not called
and no announcement is made.

So a tween that is left to the passes (`Happening.Spares`) and stepped alone
now and then is reported once if a pass is the first to exceed its duration,
and never if a single step was. `Attended` follows one tween through any
story and tells the two apart at each pass; what the handlers are entered
for is read off the reports of the passes (`passes_report_what_they_end`).
-/
import Stagecraft.Proofs.Game.Queues

namespace Stagecraft

variable {κ σ α : Type}

-- ====================================================== a task on its own

namespace TweenQueue

variable {q : TweenQueue κ α} {id : TweenId} {t : Tween κ α}

/-- A number of a numbered queue picks its task. -/
theorem Numbered.filter_tasks (h : q.Numbered) (ht : (id, t) ∈ q.tasks) :
    q.tasks.filter (fun p => p.1 == id) = [(id, t)] := by
  have hnodup := h.nodup
  unfold ids at hnodup
  obtain ⟨before, behind, hsplit⟩ := List.append_of_mem ht
  rw [hsplit, List.map_append, List.map_cons, List.nodup_middle, List.nodup_cons,
    ← List.map_append] at hnodup
  have hother (l : List (Task κ α)) (hl : l ⊆ before ++ behind) :
      l.filter (fun p => p.1 == id) = [] := by
    refine List.filter_eq_nil_iff.2 fun p hp heq => hnodup.1 ?_
    have hmem : p.1 ∈ (before ++ behind).map Prod.fst := List.mem_map_of_mem (hl hp)
    rw [beq_iff_eq.1 heq] at hmem
    exact hmem
  have hself : ((id, t).1 == id) = true := beq_self_eq_true id
  rw [hsplit, List.filter_append, List.filter_cons, if_pos hself,
    hother before (List.subset_append_left _ _), hother behind (List.subset_append_right _ _)]
  rfl

/-- Putting a tween in the place of another leaves the others. -/
theorem get?_set (q : TweenQueue κ α) (i id : TweenId) (t' : Tween κ α) :
    (q.set i t').get? id = if i = id then (q.get? id).map fun _ => t' else q.get? id := by
  have hfst (p : Task κ α) : (if p.1 == i then (i, t') else p).1 = p.1 := by
    split
    next heq => exact (beq_iff_eq.1 heq).symm
    next => rfl
  unfold get? set
  dsimp only
  rw [List.find?_map]
  have hpred : ((fun p : Task κ α => p.1 == id) ∘ fun p => if p.1 == i then (i, t') else p)
      = fun p => p.1 == id := funext fun p => congrArg (· == id) (hfst p)
  rw [hpred]
  cases hfound : q.tasks.find? fun p => p.1 == id with
  | none => simp
  | some p =>
      have hp : p.1 = id := by simpa using List.find?_some hfound
      by_cases hi : i = id
      · simp [hi, hp]
      · simp [hi, hp, Ne.symm hi]

end TweenQueue

variable [Elementary α]

/-- A tween that has been stepped by each of some times. -/
def Tween.walked (t : Tween κ α) (dts : List α) : Tween κ α :=
  dts.foldl (fun t dt => t.moved dt) t

theorem Tween.walked_append (t : Tween κ α) (dts more : List α) :
    t.walked (dts ++ more) = (t.walked dts).walked more := List.foldl_append

/-- Steps add up, and change nothing else. -/
theorem Tween.walked_eq (t : Tween κ α) (dts : List α) :
    t.walked dts = { t with elapsed := dts.foldl (· + ·) t.elapsed } := by
  induction dts generalizing t with
  | nil => rfl
  | cons dt dts ih => exact ih (t.moved dt)

theorem Tween.isDone_iff {t : Tween κ α} (htracks : t.tracks.isEmpty = false) :
    t.isDone = true ↔ t.duration < t.elapsed := by
  rw [isDone_eq htracks, decide_eq_true_iff]

namespace TweenQueue

variable {q : TweenQueue κ α} {id : TweenId} {t : Tween κ α}

theorem get?_updateAt (i id : TweenId) (dt : α) (s : Stage α) :
    (q.updateAt i dt s).1.get? id
      = (q.get? id).map fun t => if i = id then t.moved dt else t := by
  unfold updateAt
  split
  next hi =>
      have hne {t : Tween κ α} (ht : q.get? id = some t) : i ≠ id := by
        rintro rfl
        rw [ht] at hi
        cases hi
      cases hid : q.get? id with
      | none => rfl
      | some t => exact (congrArg some (if_neg (hne hid))).symm
  next t' hi =>
      dsimp only
      rw [get?_set, Tween.fst_update]
      by_cases heq : i = id
      · subst heq
        simp [hi]
      · simp [heq]

/-- What a pass makes of the task, if it was not done. -/
theorem Numbered.filter_stepped (h : q.Numbered) (ht : (id, t) ∈ q.tasks) (dt : α) :
    (q.stepped dt).filter (fun p => p.1 == id) = if t.isDone then [] else [(id, t.moved dt)] := by
  have hlive : q.live.filter (fun p => p.1 == id) = if t.isDone then [] else [(id, t)] := by
    unfold live
    rw [List.filter_comm, h.filter_tasks ht, List.filter_singleton]
    unfold Task.isLive
    cases t.isDone <;> rfl
  unfold stepped
  rw [List.filter_map]
  refine (congrArg (List.map (Task.moved dt)) hlive).trans ?_
  cases t.isDone <;> rfl

theorem Numbered.get?_rebuilt (h : q.Numbered) (ht : (id, t) ∈ q.tasks) (dt : α) :
    (q.rebuilt dt).get? id
      = if t.isDone || (t.moved dt).isDone then none else some (t.moved dt) := by
  unfold get? rebuilt running
  dsimp only
  rw [← List.head?_filter, List.filter_comm, h.filter_stepped ht]
  cases hdone : t.isDone with
  | true => rfl
  | false =>
      show Option.map _ ([(id, t.moved dt)].filter Task.isLive).head? = _
      rw [List.filter_singleton]
      unfold Task.isLive
      cases (t.moved dt).isDone <;> rfl

theorem Numbered.filter_finishing (h : q.Numbered) (ht : (id, t) ∈ q.tasks) (dt : α) :
    (q.finishing dt).filter (fun p => p.1 == id)
      = if !t.isDone && (t.moved dt).isDone then [(id, t.moved dt)] else [] := by
  unfold finishing
  rw [List.filter_comm, h.filter_stepped ht]
  cases hdone : t.isDone with
  | true => rfl
  | false =>
      show [(id, t.moved dt)].filter _ = _
      rw [List.filter_singleton]
      cases (t.moved dt).isDone <;> rfl

end TweenQueue

namespace Happening

/-- Whether a happening leaves the tween of a number to the passes of frames: it is
not cancelled, replaced or cleared, and no one moves the tweens by hand. -/
def Spares (id : TweenId) : Happening κ σ α → Prop
  | edit (.call c) => c.cancels? ≠ some id
  | edit (.replace i _) => i ≠ id
  | edit (.moveTweens _) | edit .clearTweens | edit (.changeTweens _) | reset => False
  | _ => True

/-- What a happening makes of the tween of a number. -/
def follow (id : TweenId) (w : World κ σ α) (t : Tween κ α) : Happening κ σ α → Option (Tween κ α)
  | move =>
    if t.isDone || (t.moved w.time.delta).isDone then none else some (t.moved w.time.delta)
  | edit (.step i dt) => some (if i = id then t.moved dt else t)
  | _ => some t

/-- What it reports of it. -/
def report (id : TweenId) (w : World κ σ α) (t : Tween κ α) : Happening κ σ α → List (Task κ α)
  | move =>
    if !t.isDone && (t.moved w.time.delta).isDone then [(id, t.moved w.time.delta)] else []
  | _ => []

/-- The time by which it steps it. -/
def strides (id : TweenId) (w : World κ σ α) : Happening κ σ α → List α
  | move => [w.time.delta]
  | edit (.step i dt) => if i = id then [dt] else []
  | _ => []

variable {w : World κ σ α} {id : TweenId} {t : Tween κ α} {h : Happening κ σ α}

omit [Elementary α] in
theorem Spares.keepsQueue (hh : h.Spares id) : h.keepsQueue = true := by
  cases h with
  | edit e =>
      cases e with
      | changeTweens present => exact hh.elim
      | _ => rfl
  | _ => rfl

theorem filter_finished (hw : w.tweensOrNew.Numbered) (ht : w.tweensOrNew.get? id = some t) :
    (h.finished w).filter (fun p => p.1 == id) = h.report id w t := by
  cases h with
  | move => exact hw.filter_finishing (TweenQueue.mem_of_get? ht) w.time.delta
  | _ => rfl

/-- A tween that stays has been stepped and was not reported. -/
theorem of_follow {t' : Tween κ α} (hfollow : h.follow id w t = some t') :
    t' = t.walked (h.strides id w) ∧ h.report id w t = [] := by
  cases h with
  | move =>
      have hstay : (if t.isDone || (t.moved w.time.delta).isDone then none
          else some (t.moved w.time.delta)) = some t' := hfollow
      split at hstay
      next => cases hstay
      next hlive =>
          cases hstay
          rw [Bool.or_eq_true, not_or, Bool.not_eq_true, Bool.not_eq_true] at hlive
          refine ⟨rfl, ?_⟩
          unfold report
          simp only [hlive.1, hlive.2, Bool.not_false, Bool.and_false]
          rfl
  | edit e =>
      cases e with
      | step i dt =>
          have hstay : some (if i = id then t.moved dt else t) = some t' := hfollow
          cases hstay
          refine ⟨?_, rfl⟩
          show _ = t.walked (if i = id then [dt] else [])
          split <;> rfl
      | _ =>
          cases hfollow
          exact ⟨rfl, rfl⟩
  | _ =>
      cases hfollow
      exact ⟨rfl, rfl⟩

/-- A tween that is spared leaves the queue in a pass that finds it over or takes it
past its duration. -/
theorem follow_eq_none_iff (htracks : t.tracks.isEmpty = false) :
    h.follow id w t = none
      ↔ h = .move ∧ (t.duration < t.elapsed ∨ t.duration < t.elapsed + w.time.delta) := by
  cases h with
  | move =>
      have hpass : follow id w t move = none
          ↔ (t.isDone || (t.moved w.time.delta).isDone) = true := by
        show (if t.isDone || (t.moved w.time.delta).isDone then none else some _) = none ↔ _
        split
        next hout => exact iff_of_true rfl hout
        next hstay => exact iff_of_false (Option.some_ne_none _) hstay
      have hmoved := Tween.isDone_iff (t := t.moved w.time.delta) htracks
      rw [hpass, Bool.or_eq_true, Tween.isDone_iff htracks, hmoved]
      exact ⟨fun hover => ⟨rfl, hover⟩, fun hmove => hmove.2⟩
  | edit e => cases e <;> exact iff_of_false (Option.some_ne_none _) fun hmove => by cases hmove.1
  | _ => exact iff_of_false (Option.some_ne_none _) fun hmove => by cases hmove.1

variable [DecidableEq κ] [Journal (Notice κ α) σ]

theorem get?_apply (hw : w.tweensOrNew.Numbered) (ht : w.tweensOrNew.get? id = some t)
    (hh : h.Spares id) : (h.apply w).tweensOrNew.get? id = h.follow id w t := by
  have hmem := TweenQueue.mem_of_get? ht
  have hafter := h.numbered_apply hw
  rw [tweensOrNew_apply] at hafter ⊢
  -- in all cases but one the task stays in the queue, and a number is looked up there
  cases h with
  | move => exact hw.get?_rebuilt hmem w.time.delta
  | reset => exact hh.elim
  | edit e =>
      cases e with
      | call c => exact hafter.get?_eq_some (QueueCall.mem_editTweens hmem hh)
      | push t' => exact hafter.get?_eq_some (List.mem_append_left _ hmem)
      | step i dt =>
          refine (TweenQueue.get?_updateAt i id dt w.stage).trans ?_
          rw [ht]
          rfl
      | replace i t' =>
          have hne : i ≠ id := hh
          show (w.tweensOrNew.set i t').get? id = some t
          rw [TweenQueue.get?_set, if_neg hne, ht]
      | moveTweens dt | clearTweens | changeTweens present => exact hh.elim
      | _ => exact ht
  | _ => exact ht

end Happening

-- ============================================================== whole runs

namespace World

variable [DecidableEq κ] [Journal (Notice κ α) σ]

/-- What is reported of the tween of a number. -/
def reports (w : World κ σ α) (id : TweenId) (hs : List (Happening κ σ α)) : List (Task κ α) :=
  (w.finishes hs).filter fun p => p.1 == id

/-- The time by which it is stepped. -/
def strides (w : World κ σ α) (id : TweenId) : List (Happening κ σ α) → List α :=
  w.gather (Happening.strides id)

variable {w : World κ σ α} {id : TweenId} {t t₁ : Tween κ α} {hs more : List (Happening κ σ α)}

theorem reports_append (w : World κ σ α) (id : TweenId) (hs more : List (Happening κ σ α)) :
    w.reports id (hs ++ more) = w.reports id hs ++ (w.after hs).reports id more := by
  unfold reports finishes
  rw [gather_append, List.filter_append]

/-- A number that was handed out and is not queued is not queued again. -/
theorem not_mem_ids_after (hid : id ∉ w.tweensOrNew.ids)
    (hbelow : id.number < w.tweensOrNew.next) (hkeeps : ∀ h ∈ hs, h.keepsQueue = true) :
    id ∉ (w.after hs).tweensOrNew.ids := by
  intro hmem
  rcases ids_origin hmem with hold | hnew
  · exact hid hold
  · have hissued := next_le_issued hkeeps (mem_gather.2 hnew)
    exact absurd hbelow (Nat.not_lt.2 hissued.1)

/-- Nor is anything reported of it. -/
theorem reports_eq_nil (hid : id ∉ w.tweensOrNew.ids) (hbelow : id.number < w.tweensOrNew.next)
    (hkeeps : ∀ h ∈ hs, h.keepsQueue = true) : w.reports id hs = [] := by
  refine List.filter_eq_nil_iff.2 fun p hp heq => ?_
  obtain ⟨pre, h, post, rfl, hfound⟩ := mem_gather.1 hp
  rw [List.forall_mem_append] at hkeeps
  have hqueued := h.finished_subset _ (List.mem_map_of_mem hfound)
  rw [beq_iff_eq.1 heq] at hqueued
  exact not_mem_ids_after hid hbelow hkeeps.1 hqueued

/-- A tween that is still queued after a while has been stepped, and nothing was
reported of it. -/
theorem of_queued_after (hw : w.tweensOrNew.Numbered) (ht : w.tweensOrNew.get? id = some t)
    (hspares : ∀ h ∈ hs, h.Spares id) (ht₁ : (w.after hs).tweensOrNew.get? id = some t₁) :
    t₁ = t.walked (w.strides id hs) ∧ w.reports id hs = [] := by
  induction hs generalizing w t with
  | nil =>
      have hsame : w.tweensOrNew.get? id = some t₁ := ht₁
      rw [ht] at hsame
      cases hsame
      exact ⟨rfl, rfl⟩
  | cons h hs ih =>
      rw [List.forall_mem_cons] at hspares
      have hnumbered := h.numbered_apply hw
      have happly := Happening.get?_apply hw ht hspares.1
      cases hfollow : h.follow id w t with
      | none =>
          rw [hfollow] at happly
          have hnext := h.next_le_apply w hspares.1.keepsQueue
          have hbelow := hw.below id (List.mem_map_of_mem (TweenQueue.mem_of_get? ht))
          have hgone := not_mem_ids_after (TweenQueue.get?_eq_none_iff.1 happly)
            (Nat.lt_of_lt_of_le hbelow hnext) fun x hx => (hspares.2 x hx).keepsQueue
          exact absurd (List.mem_map_of_mem (TweenQueue.mem_of_get? ht₁)) hgone
      | some t' =>
          rw [hfollow] at happly
          obtain ⟨rfl, hreport⟩ := Happening.of_follow hfollow
          obtain ⟨rfl, hreports⟩ := ih hnumbered happly hspares.2 ht₁
          constructor
          · exact (t.walked_append _ _).symm
          · refine (w.reports_append id [h] hs).trans ?_
            refine (congrArg (_ ++ ·) hreports).trans ?_
            rw [List.append_nil]
            unfold reports finishes gather gather
            rw [List.append_nil, Happening.filter_finished hw ht, hreport]

/-- A pass that takes the tween out makes the last report of it. -/
theorem reports_of_taken (hw : w.tweensOrNew.Numbered) (ht : w.tweensOrNew.get? id = some t)
    {pre post : List (Happening κ σ α)} (hspares : ∀ h ∈ pre ++ .move :: post, h.Spares id)
    (ht₁ : (w.after pre).tweensOrNew.get? id = some t₁)
    (htaken : Happening.move.follow id (w.after pre) t₁ = none) :
    w.reports id (pre ++ .move :: post) = Happening.move.report id (w.after pre) t₁
      ∧ ∀ later rest, post = later ++ rest →
        id ∉ (w.after (pre ++ .move :: later)).tweensOrNew.ids := by
  rw [List.forall_mem_append, List.forall_mem_cons] at hspares
  have hnumbered := numbered_after hw pre
  have hbelow := hnumbered.below id (List.mem_map_of_mem (TweenQueue.mem_of_get? ht₁))
  have hgone : id ∉ ((w.after pre).moved).tweensOrNew.ids := by
    refine TweenQueue.get?_eq_none_iff.1 ?_
    rw [← htaken]
    exact Happening.get?_apply hnumbered ht₁ hspares.2.1
  have hbelow' : id.number < ((w.after pre).moved).tweensOrNew.next :=
    Nat.lt_of_lt_of_le hbelow (Happening.move.next_le_apply (w.after pre) rfl)
  have hkeeps : ∀ h ∈ post, h.keepsQueue = true := fun h hh => (hspares.2.2 h hh).keepsQueue
  constructor
  · obtain ⟨-, hbefore⟩ := of_queued_after hw ht hspares.1 ht₁
    have hlater := reports_eq_nil hgone hbelow' hkeeps
    have hpass : (w.after pre).reports id [.move] = Happening.move.report id (w.after pre) t₁ := by
      unfold reports finishes gather gather
      rw [List.append_nil, Happening.filter_finished hnumbered ht₁]
    rw [reports_append, hbefore, List.nil_append]
    refine ((w.after pre).reports_append id [.move] post).trans ?_
    refine (congrArg (_ ++ ·) hlater).trans ?_
    rw [List.append_nil, hpass]
  · rintro later rest rfl
    rw [List.forall_mem_append] at hkeeps
    rw [after_append]
    have hstill := not_mem_ids_after hgone hbelow' hkeeps.1
    exact hstill

/-- A tween that is left to the passes is queued to the end, or a pass takes it out. -/
theorem queued_or_taken (hw : w.tweensOrNew.Numbered) (ht : w.tweensOrNew.get? id = some t)
    (htracks : t.tracks.isEmpty = false) (hspares : ∀ h ∈ hs, h.Spares id) :
    id ∈ (w.after hs).tweensOrNew.ids ∨ ∃ pre post t₁, hs = pre ++ .move :: post
      ∧ (w.after pre).tweensOrNew.get? id = some t₁
      ∧ (t₁.duration < t₁.elapsed ∨ t₁.duration < t₁.elapsed + (w.after pre).time.delta) := by
  induction hs generalizing w t with
  | nil => exact .inl (List.mem_map_of_mem (TweenQueue.mem_of_get? ht))
  | cons h hs ih =>
      rw [List.forall_mem_cons] at hspares
      have happly := Happening.get?_apply hw ht hspares.1
      cases hfollow : h.follow id w t with
      | none =>
          obtain ⟨rfl, hover⟩ := (Happening.follow_eq_none_iff htracks).1 hfollow
          exact .inr ⟨[], hs, t, rfl, ht, hover⟩
      | some t' =>
          rw [hfollow] at happly
          obtain ⟨rfl, -⟩ := Happening.of_follow hfollow
          have htracks' : (t.walked (h.strides id w)).tracks.isEmpty = false := by
            rw [Tween.walked_eq]
            exact htracks
          rcases ih (h.numbered_apply hw) happly htracks' hspares.2 with hend | htaken
          · exact .inl hend
          · obtain ⟨pre, post, t₁, rfl, hfound⟩ := htaken
            exact .inr ⟨h :: pre, post, t₁, rfl, hfound⟩

end World

-- ============================================================== the result

variable [DecidableEq κ] [Journal (Notice κ α) σ]

/-- What a story makes of a tween that is queued under a number at its beginning. -/
structure Attended (w : World κ σ α) (id : TweenId) (t : Tween κ α) (hs : List (Happening κ σ α)) :
    Prop where
  /-- While it is queued it is the tween with all its steps, and nothing has been
  reported of it. -/
  course : ∀ pre post, hs = pre ++ post → ∀ t₁, (w.after pre).tweensOrNew.get? id = some t₁ →
    t₁ = t.walked (w.strides id pre) ∧ w.reports id pre = []
  /-- Nothing but a pass takes it out. -/
  stays : ∀ pre h post, hs = pre ++ h :: post → h ≠ .move →
    id ∈ (w.after pre).tweensOrNew.ids → id ∈ (w.after (pre ++ [h])).tweensOrNew.ids
  /-- A pass that neither finds it over nor takes it past its duration does not. -/
  passed : ∀ pre post, hs = pre ++ .move :: post →
    ∀ t₁, (w.after pre).tweensOrNew.get? id = some t₁ → ¬t₁.duration < t₁.elapsed →
      ¬t₁.duration < t₁.elapsed + (w.after pre).time.delta →
        id ∈ (w.after (pre ++ [.move])).tweensOrNew.ids
  /-- A pass that takes it past its duration reports it, and this is the only report. -/
  reported : ∀ pre post, hs = pre ++ .move :: post →
    ∀ t₁, (w.after pre).tweensOrNew.get? id = some t₁ → ¬t₁.duration < t₁.elapsed →
      t₁.duration < t₁.elapsed + (w.after pre).time.delta →
        w.reports id hs = [(id, t₁.moved (w.after pre).time.delta)]
          ∧ ∀ later rest, post = later ++ rest →
            id ∉ (w.after (pre ++ .move :: later)).tweensOrNew.ids
  /-- A pass that finds it over takes it out, and it is never reported. -/
  dropped : ∀ pre post, hs = pre ++ .move :: post →
    ∀ t₁, (w.after pre).tweensOrNew.get? id = some t₁ → t₁.duration < t₁.elapsed →
      w.reports id hs = []
        ∧ ∀ later rest, post = later ++ rest →
          id ∉ (w.after (pre ++ .move :: later)).tweensOrNew.ids
  /-- One of these comes to pass, or it is queued to the end. -/
  ends : id ∈ (w.after hs).tweensOrNew.ids ∨ ∃ pre post t₁, hs = pre ++ .move :: post
    ∧ (w.after pre).tweensOrNew.get? id = some t₁
    ∧ (t₁.duration < t₁.elapsed ∨ t₁.duration < t₁.elapsed + (w.after pre).time.delta)

namespace World

variable {w : World κ σ α} {id : TweenId} {t : Tween κ α} {hs : List (Happening κ σ α)}

/-- The passes attend to a tween that is left to them. -/
theorem attended (hw : w.tweensOrNew.Numbered) (ht : w.tweensOrNew.get? id = some t)
    (htracks : t.tracks.isEmpty = false) (hspares : ∀ h ∈ hs, h.Spares id) :
    Attended w id t hs := by
  have hcourse (pre post : List (Happening κ σ α)) (hcut : hs = pre ++ post) (t₁ : Tween κ α)
      (ht₁ : (w.after pre).tweensOrNew.get? id = some t₁) :
      t₁ = t.walked (w.strides id pre) ∧ w.reports id pre = [] := by
    refine of_queued_after hw ht (fun h hh => hspares h ?_) ht₁
    rw [hcut]
    exact List.mem_append_left _ hh
  -- a tween that was stepped still has something to move
  have hleft (pre post : List (Happening κ σ α)) (hcut : hs = pre ++ post) (t₁ : Tween κ α)
      (ht₁ : (w.after pre).tweensOrNew.get? id = some t₁) : t₁.tracks.isEmpty = false := by
    rw [(hcourse pre post hcut t₁ ht₁).1, Tween.walked_eq]
    exact htracks
  have hstep (pre : List (Happening κ σ α)) (h : Happening κ σ α)
      (post : List (Happening κ σ α)) (hcut : hs = pre ++ h :: post) (t₁ : Tween κ α)
      (ht₁ : (w.after pre).tweensOrNew.get? id = some t₁)
      (hstays : h.follow id (w.after pre) t₁ ≠ none) :
      id ∈ (w.after (pre ++ [h])).tweensOrNew.ids := by
    have hspared : h.Spares id := by
      refine hspares h ?_
      rw [hcut]
      exact List.mem_append_right _ List.mem_cons_self
    have happly := Happening.get?_apply (numbered_after hw pre) ht₁ hspared
    by_contra hout
    rw [after_append] at hout
    have hnone := TweenQueue.get?_eq_none_iff.2 hout
    exact hstays (happly.symm.trans hnone)
  constructor
  case course => exact hcourse
  case stays =>
    intro pre h post hcut hmove hid
    obtain ⟨t₁, ht₁⟩ := Option.isSome_iff_exists.1 (TweenQueue.contains_iff.2 hid)
    refine hstep pre h post hcut t₁ ht₁ fun hnone => hmove ?_
    exact ((Happening.follow_eq_none_iff (hleft pre _ hcut t₁ ht₁)).1 hnone).1
  case passed =>
    intro pre post hcut t₁ ht₁ hunder hunder'
    refine hstep pre .move post hcut t₁ ht₁ fun hnone => ?_
    rcases ((Happening.follow_eq_none_iff (hleft pre _ hcut t₁ ht₁)).1 hnone).2 with hover | hover
    · exact hunder hover
    · exact hunder' hover
  case reported =>
    rintro pre post rfl t₁ ht₁ hunder hover
    have htracks₁ := hleft pre _ rfl t₁ ht₁
    have htaken : Happening.move.follow id (w.after pre) t₁ = none :=
      (Happening.follow_eq_none_iff htracks₁).2 ⟨rfl, .inr hover⟩
    have hreport := reports_of_taken hw ht hspares ht₁ htaken
    have hdone : t₁.isDone = false :=
      Bool.eq_false_iff.2 fun h => hunder ((Tween.isDone_iff htracks₁).1 h)
    have hdone' : (t₁.moved (w.after pre).time.delta).isDone = true :=
      (Tween.isDone_iff (t := t₁.moved (w.after pre).time.delta) htracks₁).2 hover
    unfold Happening.report at hreport
    simpa only [hdone, hdone', Bool.not_false, Bool.and_self, if_true] using hreport
  case dropped =>
    rintro pre post rfl t₁ ht₁ hover
    have htracks₁ := hleft pre _ rfl t₁ ht₁
    have htaken : Happening.move.follow id (w.after pre) t₁ = none :=
      (Happening.follow_eq_none_iff htracks₁).2 ⟨rfl, .inl hover⟩
    have hreport := reports_of_taken hw ht hspares ht₁ htaken
    have hdone : t₁.isDone = true := (Tween.isDone_iff htracks₁).2 hover
    unfold Happening.report at hreport
    simpa only [hdone, Bool.not_true, Bool.false_and, Bool.false_eq_true, if_false] using hreport
  case ends => exact queued_or_taken hw ht htracks hspares

/-- The next number does not stand for anything that has finished. -/
theorem next_not_mem_finishes (hw : w.tweensOrNew.Numbered)
    (hkeeps : ∀ h ∈ hs, h.keepsQueue = true) :
    (⟨(w.after hs).tweensOrNew.next⟩ : TweenId) ∉ (w.finishes hs).map Prod.fst := by
  intro hmem
  obtain ⟨p, hp, hnumber⟩ := List.mem_map.1 hmem
  obtain ⟨pre, h, post, rfl, hfound⟩ := mem_gather.1 hp
  have hqueued := h.finished_subset _ (List.mem_map_of_mem hfound)
  have hbelow := (numbered_after hw pre).below _ hqueued
  rw [List.forall_mem_append] at hkeeps
  have hnext := next_le_after (w := w.after pre) hkeeps.2
  rw [hnumber, after_append] at hbelow
  exact absurd (Nat.lt_of_lt_of_le hbelow hnext) (Nat.lt_irrefl _)

theorem count_reports (w : World κ σ α) (id : TweenId) (hs : List (Happening κ σ α)) :
    ((w.reports id hs).map Prod.fst).count id = (w.reports id hs).length := by
  rw [← List.length_map Prod.fst, List.count_eq_length]
  intro i hi
  obtain ⟨p, hp, rfl⟩ := List.mem_map.1 hi
  exact (beq_iff_eq.1 (List.mem_filter.1 hp).2).symm

/-- What finishes in a story of which a number is followed from an edit on: the
reports of the number, and all others. -/
theorem finishes_perm (w : World κ σ α) (e : Edit κ σ α) (id : TweenId)
    (pre post : List (Happening κ σ α)) :
    (w.finishes (pre ++ .edit e :: post)).Perm
      ((e.apply (w.after pre)).reports id post
        ++ (w.finishes pre
          ++ ((e.apply (w.after pre)).finishes post).filter fun p => p.1 != id)) := by
  have hsplit : w.finishes (pre ++ .edit e :: post)
      = w.finishes pre ++ (e.apply (w.after pre)).finishes post :=
    gather_append _ _ _ _
  have hfilter := List.filter_append_perm (fun p : Task κ α => p.1 == id)
    ((e.apply (w.after pre)).finishes post)
  rw [hsplit]
  exact (hfilter.symm.append_left _).trans (List.perm_append_comm_assoc _ _ _)

end World

/-- A tween that is queued by a call in a run, and left to the passes from there on,
is attended to; what is called and announced in the run are the reports of the
passes, those of the tween among them. -/
theorem passes_report_what_they_end (script : Script κ σ α) (config : Config α) (host : σ)
    {steps : List (Game.Step κ σ α)} {pre post : List (Happening κ σ α)} {call : QueueCall κ α}
    {t : Tween κ α}
    (hstory : (Game.new config host).story script steps = pre ++ .edit (.call call) :: post)
    (htween : call.tween? ((Game.new config host).world.after pre) = some t)
    (hspares : ∀ h ∈ post,
      h.Spares ⟨((Game.new config host).world.after pre).tweensOrNew.next⟩) :
    let w₀ : World κ σ α := (Game.new config host).world
    let id : TweenId := ⟨(w₀.after pre).tweensOrNew.next⟩
    let w := call.apply (w₀.after pre)
    let story := (Game.new config host).story script steps
    let others := w₀.finishes pre ++ (w.finishes post).filter fun p => p.1 != id
    Attended w id t post
      ∧ (called story).Perm ((w.reports id post).filterMap (fun p => p.2.onComplete)
        ++ (w₀.dues story ++ others.filterMap fun p => p.2.onComplete))
      ∧ (announced story).Perm ((w.reports id post).map Prod.fst ++ others.map Prod.fst)
      ∧ ((∀ h ∈ pre, h.keepsQueue = true) → (announced story).count id = (w.reports id post).length)
      ∧ ∀ before behind, story = before ++ .move :: behind →
        ∃ rest, behind = script.visits (w₀.after before).moved
          ((w₀.after before).completions ++ (w₀.after before).announcements) ++ rest := by
  intro w₀ id w story others
  have hempty : w₀.tweensOrNew.Numbered := TweenQueue.numbered_empty
  have hnumbered := World.numbered_after hempty pre
  have hget : w.tweensOrNew.get? id = some t := by
    rw [QueueCall.tweensOrNew_apply]
    exact (QueueCall.numbered_editTweens hnumbered).get?_eq_some
      (QueueCall.mem_editTweens_tween htween).1
  have hnumbered' : w.tweensOrNew.Numbered := by
    rw [QueueCall.tweensOrNew_apply]
    exact QueueCall.numbered_editTweens hnumbered
  have htracks : t.tracks.isEmpty = false :=
    (Bool.or_eq_false_iff.1 (QueueCall.isDone_of_tween? htween)).1
  have hfinishes : (w₀.finishes story).Perm (w.reports id post ++ others) := by
    rw [show story = _ from hstory]
    exact w₀.finishes_perm (.call call) id pre post
  have hannounced : (announced story).Perm
      ((w.reports id post).map Prod.fst ++ others.map Prod.fst) := by
    rw [Game.announced_story, ← List.map_append]
    exact hfinishes.map _
  refine ⟨World.attended hnumbered' hget htracks hspares, ?_, hannounced, ?_, ?_⟩
  · have hcalls := hfinishes.filterMap fun p => p.2.onComplete
    rw [List.filterMap_append] at hcalls
    refine (Game.called_story script _ steps).trans ?_
    exact (hcalls.append_left _).trans (List.perm_append_comm_assoc _ _ _)
  · intro hkeeps
    have hothers : id ∉ others.map Prod.fst := by
      intro hid
      rw [List.map_append] at hid
      rcases List.mem_append.1 hid with hbefore | hbehind
      · exact World.next_not_mem_finishes hempty hkeeps hbefore
      · obtain ⟨p, hp, hnumber⟩ := List.mem_map.1 hbehind
        have hne := (List.mem_filter.1 hp).2
        rw [hnumber] at hne
        simp at hne
    rw [hannounced.count_eq, List.count_append, World.count_reports, List.count_eq_zero.2 hothers]
    rfl
  · exact fun before behind hcut => Game.story_move script hcut

/-- Handlers that do nothing. -/
private def silent : Script ℕ (List (Notice ℕ Float)) Float := ⟨fun _ _ => []⟩

private def newGame : Game ℕ (List (Notice ℕ Float)) Float := Game.new (.new "") []

/-- Puts a stage with one record in place. -/
private def recordPlaced : Edit ℕ (List (Notice ℕ Float)) Float :=
  .surround none { puppets := #[.record [("x", .scalar 0.0)]] } []

/-- Asks for a tween of the record over a second. -/
private def overASecond : QueueCall ℕ Float :=
  .animate ⟨0⟩ 1.0 [("x", .scalar 4.0)] none (some 8)

private def inASecond : Tween ℕ Float :=
  { target := ⟨0⟩, tracks := [⟨"x", .scalar 0.0, .scalar 4.0⟩], elapsed := 0.0, duration := 1.0
    easing := .linear, onComplete := some 8 }

private def halfStepped : List (Game.Step ℕ (List (Notice ℕ Float)) Float) :=
  [.edit recordPlaced, .edit (.call overASecond), .edit (.step ⟨0⟩ 0.5), .tick 0.75]

private def afterHalf : List (Happening ℕ (List (Notice ℕ Float)) Float) :=
  [.edit (.step ⟨0⟩ 0.5), .frame 0.75, .count, .move, .enter (.call 8),
    .tell (.tweenFinished ⟨0⟩), .enter (.announce ⟨0⟩)]

/-- A tween over a second that was stepped alone by half a second is reported by a pass
of three quarters. -/
theorem half_stepped_is_reported :
    newGame.story silent halfStepped
        = [.edit recordPlaced] ++ .edit (.call overASecond) :: afterHalf
      ∧ overASecond.tween? (newGame.world.after [.edit recordPlaced]) = some inASecond
      ∧ (∀ h ∈ afterHalf, h.Spares ⟨0⟩)
      ∧ (called (newGame.story silent halfStepped)).count 8 = 1
      ∧ (announced (newGame.story silent halfStepped)).count ⟨0⟩ = 1 := by
  have hstory : newGame.story silent halfStepped
      = [.edit recordPlaced] ++ .edit (.call overASecond) :: afterHalf := rfl
  have htween : overASecond.tween? (newGame.world.after [.edit recordPlaced])
      = some inASecond := rfl
  have hspares : ∀ h ∈ afterHalf, h.Spares ⟨0⟩ := by simp [afterHalf, Happening.Spares]
  obtain ⟨hattended, hcalled, -, hcount, -⟩ :=
    passes_report_what_they_end silent (.new "") [] hstory htween hspares
  have hreports := (hattended.reported [.edit (.step ⟨0⟩ 0.5), .frame 0.75, .count] _ rfl
    (inASecond.moved 0.5) rfl (by decide +kernel) (by decide +kernel)).1
  rw [hreports] at hcalled hcount
  refine ⟨hstory, htween, hspares, ?_, ?_⟩
  · refine hcalled.count_eq 8 |>.trans ?_
    decide +kernel
  · exact hcount (by simp [Happening.keepsQueue, recordPlaced])

private def twiceStepped : List (Game.Step ℕ (List (Notice ℕ Float)) Float) :=
  [.edit recordPlaced, .edit (.call overASecond), .edit (.step ⟨0⟩ 2.0)]

/-- A tween over a second that was stepped alone by two seconds is past its duration
while it is queued. The pass that comes next takes it out, and neither it nor any
later one reports it. -/
theorem stepped_over_is_not_reported :
    overASecond.tween? (newGame.world.after [.edit recordPlaced]) = some inASecond
      ∧ (newGame.run silent twiceStepped).world.tweensOrNew.get? ⟨0⟩ = some (inASecond.moved 2.0)
      ∧ inASecond.duration < (inASecond.moved 2.0).elapsed
      ∧ called (newGame.story silent (twiceStepped ++ [.tick 0.25, .tick 0.25])) = []
      ∧ announced (newGame.story silent (twiceStepped ++ [.tick 0.25, .tick 0.25])) = []
      ∧ (newGame.run silent (twiceStepped ++ [.tick 0.25])).world.tweensOrNew.ids = [] := by
  refine ⟨rfl, rfl, ?_, rfl, rfl, rfl⟩
  decide +kernel

end Stagecraft
