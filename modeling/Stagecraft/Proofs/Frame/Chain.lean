/-
How the deeds of a frame hang together.

The world that a deed finds is what the deeds before it made of the first
one. `Chain` says so with one rule for each thing that can happen: the
host state changes, a handler is entered, a call is made. Only the last
touches what a frame reads, and a call is known in full
(`QueueCall.apply_eq`), so each fact about a whole pass is an induction
with one case that says anything.

# What a chain does to the queues

The clock at the end is the one at the beginning with the edits of the
calls applied in order (`Chain.clock`), and so are the tweens
(`Chain.tweens`). Three consequences are what holders of handles care
for: what a deed puts into a queue is there at the end unless a later
deed takes it out (`mem_foldl_of_scheduled?`, `Chain.queued_stays`); a
number that was handed out stands for the same tween or for none from
then on (`Chain.settled`), so what is cancelled does not come back; and a
chain queues under numbers that were not handed out before it
(`Chain.next_le_queued`).
-/
import Stagecraft.Proofs.Frame.Record

namespace Stagecraft

variable {κ σ α : Type} [Elementary α]

-- ==================================================== deeds on the queues

namespace Deed

/-- The entry that a deed puts into the clock. -/
def scheduled? (d : Deed κ σ α) : Option (ScheduledCall κ α) := d.queueCall?.bind QueueCall.entry?

/-- Whether a deed takes the entries of a callback out of the clock. -/
def drops [DecidableEq κ] (d : Deed κ σ α) (c : κ) : Bool :=
  d.queueCall?.any fun call => call.drops c

/-- The task that a deed puts into the tween queue. -/
def queued? (d : Deed κ σ α) : Option (Task κ α) :=
  (d.queueCall?.bind (QueueCall.tween? d.world)).map fun t => (⟨d.world.tweensOrNew.next⟩, t)

/-- The number that a deed takes out of the tween queue, if it is there. -/
def cancels? (d : Deed κ σ α) : Option TweenId := d.queueCall?.bind QueueCall.cancels?

/-- The tween queue after a deed. -/
def editTweens (q : TweenQueue κ α) (d : Deed κ σ α) : TweenQueue κ α :=
  match d.queueCall? with
  | some call => call.editTweens d.world q
  | none => q

end Deed

-- ============================================================= the chain

variable [DecidableEq κ]

/-- An entry that a deed schedules is in the clock after the calls of later
deeds that do not drop its callback. -/
theorem mem_foldl_of_scheduled? {d : Deed κ σ α} {pre post : List (Deed κ σ α)}
    {e : ScheduledCall κ α} (he : d.scheduled? = some e)
    (hkeep : ∀ later ∈ post, later.drops e.callback = false) (q : Clock κ α) :
    e ∈ ((queueCalls (pre ++ d :: post)).foldl (fun q call => call.editClock q) q).queue := by
  obtain ⟨call, hcall, hentry⟩ := Option.bind_eq_some_iff.1 he
  have hcalls : queueCalls (pre ++ d :: post) = queueCalls pre ++ call :: queueCalls post := by
    rw [queueCalls_append]
    unfold queueCalls
    rw [List.filterMap_cons_some hcall]
  rw [hcalls]
  refine QueueCall.mem_foldl_editClock hentry ?_ q
  intro c hc
  obtain ⟨later, hlater, hqueue⟩ := List.mem_filterMap.1 hc
  have hdrops := hkeep later hlater
  unfold Deed.drops at hdrops
  rw [hqueue] at hdrops
  exact hdrops

variable [Journal (Notice κ α) σ]

/-- The world that a deed leaves. -/
def Deed.after (d : Deed κ σ α) : World κ σ α :=
  match d.queueCall? with
  | some call => call.apply d.world
  | none => d.world

/-- The deeds follow each other from the first world to the second. -/
inductive Chain : World κ σ α → List (Deed κ σ α) → World κ σ α → Prop where
  | done (w : World κ σ α) : Chain w [] w
  | host {w w' : World κ σ α} {ds : List (Deed κ σ α)} (host : σ)
      (rest : Chain (w.withHost host) ds w') : Chain w ds w'
  | enter {w w' : World κ σ α} {ds : List (Deed κ σ α)} (o : Occasion κ)
      (rest : Chain w ds w') : Chain w (⟨.enter o, w⟩ :: ds) w'
  | queue {w w' : World κ σ α} {ds : List (Deed κ σ α)} (call : QueueCall κ α)
      (rest : Chain (call.apply w) ds w') : Chain w (⟨.queue call, w⟩ :: ds) w'

namespace Chain

variable {u v w w' : World κ σ α} {d : Deed κ σ α} {ds es pre post : List (Deed κ σ α)}

theorem append (h : Chain u ds v) (hrest : Chain v es w) : Chain u (ds ++ es) w := by
  induction h with
  | done => exact hrest
  | host host _ ih => exact .host host (ih hrest)
  | enter o _ ih => exact .enter o (ih hrest)
  | queue call _ ih => exact .queue call (ih hrest)

/-- A chain runs through the world that a deed finds and the one that it
leaves. -/
theorem split (h : Chain w (pre ++ d :: post) w') :
    Chain w pre d.world ∧ Chain d.after post w' := by
  generalize hds : pre ++ d :: post = ds at h
  induction h generalizing pre with
  | done => exact absurd hds (by simp)
  | host host _ ih =>
      obtain ⟨hpre, hpost⟩ := ih hds
      exact ⟨.host host hpre, hpost⟩
  | enter o rest ih =>
      rcases List.append_eq_cons_iff.1 hds with ⟨rfl, hcons⟩ | ⟨pre', rfl, hrest⟩
      · obtain ⟨rfl, rfl⟩ := List.cons.inj hcons
        exact ⟨.done _, rest⟩
      · obtain ⟨hpre, hpost⟩ := ih hrest.symm
        exact ⟨.enter o hpre, hpost⟩
  | queue call rest ih =>
      rcases List.append_eq_cons_iff.1 hds with ⟨rfl, hcons⟩ | ⟨pre', rfl, hrest⟩
      · obtain ⟨rfl, rfl⟩ := List.cons.inj hcons
        exact ⟨.done _, rest⟩
      · obtain ⟨hpre, hpost⟩ := ih hrest.symm
        exact ⟨.queue call hpre, hpost⟩

end Chain

private theorem chain_calls (w : World κ σ α) (calls : List (QueueCall κ α)) :
    Chain w (QueueCall.deeds w calls) (calls.foldl QueueCall.apply w) := by
  induction calls generalizing w with
  | nil => exact .done w
  | cons call rest ih => exact .queue call (ih (call.apply w))

/-- What handlers do on a list of occasions is a chain. -/
theorem chain_deeds (b : Behaviour κ σ α) (w : World κ σ α) (os : List (Occasion κ)) :
    Chain w (b.deeds w os) (os.foldl (World.meet b.handlers) w) := by
  have hbody : ∀ (v : World κ σ α) (o : Occasion κ),
      Chain v (⟨.enter o, v⟩ :: QueueCall.deeds (v.withHost (b.host o v)) (b.calls o v))
        (b.body o v) :=
    fun v o => .enter o (.host (b.host o v) (chain_calls _ _))
  induction os generalizing w with
  | nil => exact .done w
  | cons o rest ih =>
      have hone : Chain w (b.deedsOn w o) (w.meet b.handlers o) := by
        cases o with
        | call c => exact hbody w (.call c)
        | announce id =>
            -- the announcement is told the host before the handler is entered
            exact .host (w.note (.tweenFinished id)).host (hbody (w.note (.tweenFinished id)) _)
      exact hone.append (ih (w.meet b.handlers o))

-- ======================================================== what stays as is

namespace Chain

variable {w w' : World κ σ α} {d : Deed κ σ α} {ds pre post : List (Deed κ σ α)}

/-- A chain leaves time and stage alone, and takes no queue away. -/
theorem frame (h : Chain w ds w') :
    w'.time = w.time ∧ w'.stage = w.stage ∧ (w.clock.isSome → w'.clock.isSome)
      ∧ (w.tweens.isSome → w'.tweens.isSome) := by
  induction h with
  | done => exact ⟨rfl, rfl, id, id⟩
  | host host _ ih => exact ih
  | enter o _ ih => exact ih
  | @queue w w' ds call _ ih =>
      obtain ⟨htime, hstage, hclock, htweens⟩ := ih
      obtain ⟨hclock', htweens'⟩ := QueueCall.isSome_apply w call
      exact ⟨htime.trans (QueueCall.time_apply w call), hstage.trans (QueueCall.stage_apply w call),
        hclock ∘ hclock', htweens ∘ htweens'⟩

-- ============================================================== the clock

/-- The clock at the end: the calls have edited it in order. -/
theorem clock (h : Chain w ds w') :
    w'.clockOrNew = (queueCalls ds).foldl (fun q call => call.editClock q) w.clockOrNew := by
  induction h with
  | done => rfl
  | host host _ ih => exact ih
  | enter o _ ih => exact ih
  | @queue w w' ds call _ ih =>
      rw [QueueCall.clockOrNew_apply] at ih
      exact ih

theorem clock_eq_some (h : Chain w ds w') {q : Clock κ α} (hw : w.clock = some q) :
    w'.clock = some ((queueCalls ds).foldl (fun q call => call.editClock q) q) := by
  have hclock := h.clock
  obtain ⟨-, -, hsome, -⟩ := h.frame
  obtain ⟨r, hr⟩ := Option.isSome_iff_exists.1 (hsome (by rw [hw]; rfl))
  unfold World.clockOrNew at hclock
  rw [hr, hw] at hclock
  rw [hr]
  exact congrArg some hclock

-- ============================================================= the tweens

/-- The tweens at the end: the calls have edited them in order. -/
theorem tweens (h : Chain w ds w') : w'.tweensOrNew = ds.foldl Deed.editTweens w.tweensOrNew := by
  induction h with
  | done => rfl
  | host host _ ih => exact ih
  | enter o _ ih => exact ih
  | @queue w w' ds call _ ih =>
      rw [QueueCall.tweensOrNew_apply] at ih
      exact ih

theorem tweens_eq_some (h : Chain w ds w') {q : TweenQueue κ α} (hw : w.tweens = some q) :
    w'.tweens = some (ds.foldl Deed.editTweens q) := by
  have htweens := h.tweens
  obtain ⟨-, -, -, hsome⟩ := h.frame
  obtain ⟨r, hr⟩ := Option.isSome_iff_exists.1 (hsome (by rw [hw]; rfl))
  unfold World.tweensOrNew at htweens
  rw [hr, hw] at htweens
  rw [hr]
  exact congrArg some htweens

/-- What every call keeps, a chain keeps. -/
theorem tweens_induction {P : TweenQueue κ α → Prop} (h : Chain w ds w')
    (hstep : ∀ (call : QueueCall κ α) (v : World κ σ α) (q : TweenQueue κ α),
      P q → P (call.editTweens v q)) (hw : P w.tweensOrNew) : P w'.tweensOrNew := by
  induction h with
  | done => exact hw
  | host host _ ih => exact ih hw
  | enter o _ ih => exact ih hw
  | @queue w w' ds call _ ih =>
      refine ih ?_
      rw [QueueCall.tweensOrNew_apply]
      exact hstep call w _ hw

theorem numbered (h : Chain w ds w') (hw : w.tweensOrNew.Numbered) : w'.tweensOrNew.Numbered :=
  h.tweens_induction (fun _ _ _ => QueueCall.numbered_editTweens) hw

/-- The next number never goes down. -/
theorem next_le (h : Chain w ds w') : w.tweensOrNew.next ≤ w'.tweensOrNew.next :=
  h.tweens_induction (P := fun q => w.tweensOrNew.next ≤ q.next)
    (fun _ _ _ hq => Nat.le_trans hq QueueCall.next_le_editTweens) (Nat.le_refl _)

/-- A number that was handed out stands for what it stood for, or for nothing. -/
theorem settled (h : Chain w ds w') {id : TweenId} {P : Tween κ α → Prop}
    (hid : id.number < w.tweensOrNew.next) (hw : ∀ t, (id, t) ∈ w.tweensOrNew.tasks → P t) :
    ∀ t, (id, t) ∈ w'.tweensOrNew.tasks → P t := by
  have hkept := h.tweens_induction
    (P := fun q => id.number < q.next ∧ ∀ t, (id, t) ∈ q.tasks → P t) ?_ ⟨hid, hw⟩
  · exact hkept.2
  · rintro call v q ⟨hlt, hq⟩
    refine ⟨Nat.lt_of_lt_of_le hlt QueueCall.next_le_editTweens, fun t ht => ?_⟩
    rcases QueueCall.mem_of_mem_editTweens ht with hold | ⟨r, -, hnew⟩
    · exact hq t hold
    · obtain ⟨rfl, -⟩ := Prod.mk.inj hnew
      exact absurd hlt (Nat.lt_irrefl _)

/-- A task stays in the queue unless a deed cancels its number. -/
theorem task_stays (h : Chain w ds w') {p : Task κ α} (hp : p ∈ w.tweensOrNew.tasks)
    (hkeep : ∀ later ∈ ds, later.cancels? ≠ some p.1) : p ∈ w'.tweensOrNew.tasks := by
  induction h with
  | done => exact hp
  | host host _ ih => exact ih hp hkeep
  | enter o _ ih => exact ih hp fun later hlater => hkeep later (List.mem_cons_of_mem _ hlater)
  | @queue w w' ds call _ ih =>
      refine ih ?_ fun later hlater => hkeep later (List.mem_cons_of_mem _ hlater)
      rw [QueueCall.tweensOrNew_apply]
      exact QueueCall.mem_editTweens hp (hkeep _ List.mem_cons_self)

/-- A task of the queue at the end was there at the beginning, or a deed queued
it as it is. -/
theorem task_origin (h : Chain w ds w') {p : Task κ α} (hp : p ∈ w'.tweensOrNew.tasks) :
    p ∈ w.tweensOrNew.tasks ∨ ∃ d ∈ ds, d.queued? = some p := by
  induction h with
  | done => exact .inl hp
  | host host _ ih => exact ih hp
  | enter o _ ih =>
      rcases ih hp with hold | ⟨d, hd, hqueued⟩
      · exact .inl hold
      · exact .inr ⟨d, List.mem_cons_of_mem _ hd, hqueued⟩
  | @queue w w' ds call _ ih =>
      rcases ih hp with hafter | ⟨d, hd, hqueued⟩
      · rw [QueueCall.tweensOrNew_apply] at hafter
        rcases QueueCall.mem_of_mem_editTweens hafter with hold | ⟨t, ht, rfl⟩
        · exact .inl hold
        · exact .inr ⟨_, List.mem_cons_self, congrArg (Option.map _) ht⟩
      · exact .inr ⟨d, List.mem_cons_of_mem _ hd, hqueued⟩

end Chain

-- ================================================ what a deed does to tweens

namespace Deed

variable {d : Deed κ σ α} {p : Task κ α} {id : TweenId}

theorem tweensOrNew_after (d : Deed κ σ α) :
    d.after.tweensOrNew = d.editTweens d.world.tweensOrNew := by
  unfold after editTweens
  cases d.queueCall? with
  | some call => exact QueueCall.tweensOrNew_apply d.world call
  | none => rfl

theorem numbered_after (h : d.world.tweensOrNew.Numbered) : d.after.tweensOrNew.Numbered := by
  rw [tweensOrNew_after]
  unfold editTweens
  split
  · exact QueueCall.numbered_editTweens h
  · exact h

/-- A task is queued under the number that was next, with a tween that is not
done, and stands in the queue then. -/
theorem queued_after (h : d.queued? = some p) :
    p.1.number = d.world.tweensOrNew.next ∧ p.2.isDone = false
      ∧ p ∈ d.after.tweensOrNew.tasks ∧ p.1.number < d.after.tweensOrNew.next := by
  obtain ⟨t, htween, rfl⟩ := Option.map_eq_some_iff.1 h
  obtain ⟨call, hcall, ht⟩ := Option.bind_eq_some_iff.1 htween
  have hafter : d.after.tweensOrNew = call.editTweens d.world d.world.tweensOrNew := by
    rw [tweensOrNew_after]
    unfold editTweens
    rw [hcall]
  obtain ⟨hmem, hnext⟩ := QueueCall.mem_editTweens_tween (q := d.world.tweensOrNew) ht
  rw [hafter, hnext]
  exact ⟨rfl, QueueCall.isDone_of_tween? ht, hmem, Nat.lt_succ_self _⟩

/-- A cancelled number stands for no task. -/
theorem cancelled_after (hw : d.world.tweensOrNew.Numbered) (h : d.cancels? = some id) :
    id ∉ d.after.tweensOrNew.ids ∧ d.world.tweensOrNew.next ≤ d.after.tweensOrNew.next := by
  obtain ⟨call, hcall, hid⟩ := Option.bind_eq_some_iff.1 h
  have hafter : d.after.tweensOrNew = call.editTweens d.world d.world.tweensOrNew := by
    rw [tweensOrNew_after]
    unfold editTweens
    rw [hcall]
  rw [hafter]
  exact ⟨QueueCall.not_mem_ids_editTweens hw hid, QueueCall.next_le_editTweens⟩

end Deed

namespace Chain

variable {w w' : World κ σ α} {d : Deed κ σ α} {pre post : List (Deed κ σ α)} {p : Task κ α}
  {id : TweenId}

/-- A queued task is there at the end, as it was queued, unless a later deed
cancels its number. -/
theorem queued_stays (h : Chain w (pre ++ d :: post) w') (hp : d.queued? = some p)
    (hkeep : ∀ later ∈ post, later.cancels? ≠ some p.1) : p ∈ w'.tweensOrNew.tasks :=
  h.split.2.task_stays (Deed.queued_after hp).2.2.1 hkeep

/-- No task queued by a chain has a number that was handed out before. -/
theorem next_le_queued (h : Chain w (pre ++ d :: post) w') (hp : d.queued? = some p) :
    w.tweensOrNew.next ≤ p.1.number := by
  rw [(Deed.queued_after hp).1]
  exact h.split.1.next_le

/-- The number of a queued task stands for its tween as it was queued, or for
none, from then on. -/
theorem queued_alone (h : Chain w (pre ++ d :: post) w') (hw : w.tweensOrNew.Numbered)
    (hp : d.queued? = some p) : ∀ t, (p.1, t) ∈ w'.tweensOrNew.tasks → t = p.2 := by
  obtain ⟨hpre, hpost⟩ := h.split
  obtain ⟨-, -, hmem, hlt⟩ := Deed.queued_after hp
  refine hpost.settled hlt fun t ht => ?_
  have hnumbered := Deed.numbered_after (hpre.numbered hw)
  have hp' := hnumbered.get?_eq_some hmem
  rw [hnumbered.get?_eq_some ht] at hp'
  exact Option.some.inj hp'

/-- A number that is cancelled after it was handed out stands for no task at the
end. -/
theorem cancelled_gone (h : Chain w (pre ++ d :: post) w') (hw : w.tweensOrNew.Numbered)
    (hid : d.cancels? = some id) (hout : id.number < d.world.tweensOrNew.next) :
    id ∉ w'.tweensOrNew.ids := by
  obtain ⟨hpre, hpost⟩ := h.split
  obtain ⟨hgone, hnext⟩ := Deed.cancelled_after (hpre.numbered hw) hid
  have hnone : ∀ t, (id, t) ∈ w'.tweensOrNew.tasks → False := by
    refine hpost.settled (Nat.lt_of_lt_of_le hout hnext) fun t ht => ?_
    exact hgone (List.mem_map_of_mem ht)
  intro hmem
  obtain ⟨r, hr, rfl⟩ := List.mem_map.1 hmem
  exact hnone r.2 hr

end Chain

end Stagecraft
