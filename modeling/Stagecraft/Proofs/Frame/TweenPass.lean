/-
The pass over the tweens.

Every live task is stepped, and the stage is where the steps put it,
before the first handler is entered; no handler steps a tween. Then the
completion callbacks of the tasks that finished are called in queue
order, and after the last one each of these tasks is announced, with a
callback or without. Both lists are read off the queue as it stood
before the pass, so a callback that cancels a finished tween or queues a
new one changes neither.

What a handler queues stands in the rebuilt queue as it is, under a
number that no task of this pass has: it is neither stepped nor finished
before the next pass.
-/
import Stagecraft.Proofs.Frame.Chain

namespace Stagecraft

variable {κ σ α : Type} [Elementary α]

-- ============================================================== the pass

namespace World

/-- The world in which the first completion callback is called. -/
def moved (w : World κ σ α) : World κ σ α :=
  { w with
    tweens := w.tweens.map fun q => q.rebuilt w.time.delta
    stage := w.tweensOrNew.played w.time.delta w.stage }

/-- The completion callbacks that the pass over the tweens calls. -/
def completions (w : World κ σ α) : List (Occasion κ) :=
  ((w.tweensOrNew.finishing w.time.delta).filterMap fun p => p.2.onComplete).map .call

/-- The announcements that the pass over the tweens makes. -/
def announcements (w : World κ σ α) : List (Occasion κ) :=
  (w.tweensOrNew.finishing w.time.delta).map fun p => .announce p.1

variable [Journal (Notice κ α) σ]

/-- The pass: the tweens are moved, then callbacks are called, then what
finished is announced. -/
theorem updateTweens_eq (h : Handlers κ σ α) (w : World κ σ α) :
    w.updateTweens h
      = w.announcements.foldl (meet h) (w.completions.foldl (meet h) w.moved) := by
  unfold updateTweens announcements completions moved tweensOrNew
  obtain ⟨time, config, clock, tweens, gallery, stage, host⟩ := w
  cases tweens with
  | none => rfl
  | some q =>
      dsimp only [Option.getD_some, Option.map_some]
      rw [TweenQueue.advance_eq]
      dsimp only
      rw [List.map_map, List.filterMap_map, List.foldl_map, List.foldl_map, List.foldl_map]
      rfl

variable [DecidableEq κ]

/-- The world after the completion callbacks. -/
def completed (b : Behaviour κ σ α) (w : World κ σ α) : World κ σ α :=
  w.completions.foldl (meet b.handlers) w.moved

/-- What handlers do in the pass. -/
def tweenDeeds (b : Behaviour κ σ α) (w : World κ σ α) : List (Deed κ σ α) :=
  b.deeds w.moved w.completions ++ b.deeds (w.completed b) w.announcements

theorem updateTweens_recorded (b : Behaviour κ σ α) (w : World κ σ α)
    (record : List (Deed κ σ α)) :
    (w.recorded record).updateTweens b.recorded
      = (w.updateTweens b.handlers).recorded (record ++ w.tweenDeeds b) := by
  rw [updateTweens_eq, updateTweens_eq]
  have hcalled : (w.recorded record).completions.foldl (meet b.recorded) (w.recorded record).moved
      = (w.completed b).recorded (record ++ b.deeds w.moved w.completions) :=
    foldl_meet_recorded b w.completions w.moved record
  unfold tweenDeeds
  rw [hcalled, ← List.append_assoc]
  exact foldl_meet_recorded b w.announcements (w.completed b) _

theorem chain_updateTweens (b : Behaviour κ σ α) (w : World κ σ α) :
    Chain w.moved (w.tweenDeeds b) (w.updateTweens b.handlers) := by
  rw [updateTweens_eq]
  exact (chain_deeds b w.moved w.completions).append (chain_deeds b _ w.announcements)

/-- The calls that are made in the pass are those of the handlers that are
entered. -/
theorem queueCalls_tweenDeeds (b : Behaviour κ σ α) (w : World κ σ α) :
    queueCalls (w.tweenDeeds b) = (w.tweenDeeds b).flatMap b.callsAt := by
  unfold tweenDeeds
  rw [queueCalls_append, List.flatMap_append, queueCalls_deeds, queueCalls_deeds]

-- =============================================== what handlers find and leave

omit [Journal (Notice κ α) σ] [DecidableEq κ] in
theorem tweensOrNew_moved (w : World κ σ α) :
    w.moved.tweensOrNew = w.tweensOrNew.rebuilt w.time.delta := by
  unfold moved tweensOrNew
  cases w.tweens with
  | none => rfl
  | some q => rfl

/-- A handler finds the stage played and the queue rebuilt, but for what the
handlers before did to the queue. -/
theorem found_tweenDeeds (b : Behaviour κ σ α) (w : World κ σ α) {d : Deed κ σ α}
    {pre post : List (Deed κ σ α)} (h : w.tweenDeeds b = pre ++ d :: post) :
    d.world.stage = w.tweensOrNew.played w.time.delta w.stage
      ∧ d.world.tweensOrNew
        = pre.foldl Deed.editTweens (w.tweensOrNew.rebuilt w.time.delta) := by
  have hchain := chain_updateTweens b w
  rw [h] at hchain
  obtain ⟨-, hstage, -⟩ := hchain.split.1.frame
  refine ⟨hstage, ?_⟩
  rw [hchain.split.1.tweens, tweensOrNew_moved]

/-- What handlers queue has a number that is none of this pass, and that stands
for no other tween at the end. -/
theorem fresh_tweenDeeds (b : Behaviour κ σ α) (w : World κ σ α) (hw : w.tweensOrNew.Numbered)
    {d : Deed κ σ α} {pre post : List (Deed κ σ α)} (h : w.tweenDeeds b = pre ++ d :: post)
    {p : Task κ α} (hp : d.queued? = some p) :
    p.1 ∉ w.tweensOrNew.ids
      ∧ ∀ t, (p.1, t) ∈ (w.updateTweens b.handlers).tweensOrNew.tasks → t = p.2 := by
  have hchain := chain_updateTweens b w
  rw [h] at hchain
  have hmoved : w.moved.tweensOrNew.Numbered := by
    rw [tweensOrNew_moved]
    exact hw.of_sublist (TweenQueue.ids_rebuilt_sublist _ _) rfl
  refine ⟨fun hmem => ?_, hchain.queued_alone hmoved hp⟩
  -- the number is at least the one that was next when the pass began
  have hbelow := hw.below p.1 hmem
  have habove := hchain.next_le_queued hp
  rw [tweensOrNew_moved] at habove
  exact absurd hbelow (Nat.not_lt.2 habove)

end World

-- ============================================================= the result

section Result

variable [DecidableEq κ] [Journal (Notice κ α) σ]

/-- What a pass over a queue of tweens does from the world `w` to the world
`after`, told by the deeds of the completion callbacks and by those of the
handlers of announcements. -/
structure TweenPass (b : Behaviour κ σ α) (w : World κ σ α) (q : TweenQueue κ α)
    (after : World κ (Recorded κ σ α) α) (calls events : List (Deed κ σ α)) : Prop where
  /-- All callbacks come before all announcements. -/
  record : after.host.record = calls ++ events
  /-- Without the recorder the pass is the same. -/
  plain : after.plain = w.updateTweens b.handlers
  /-- The calls on the queues are those of the handlers that are entered. -/
  made : queueCalls (calls ++ events) = (calls ++ events).flatMap b.callsAt
  /-- Each live task is stepped once before the first handler is entered: each
  handler finds the stage played and the queue rebuilt, but for what handlers
  did to the queue before. -/
  found : ∀ pre d post, calls ++ events = pre ++ d :: post →
    d.world.stage = q.played w.time.delta w.stage
      ∧ d.world.tweens = some (pre.foldl Deed.editTweens (q.rebuilt w.time.delta))
  /-- No task is stepped after that. -/
  left : after.stage = q.played w.time.delta w.stage
    ∧ after.tweens = some ((calls ++ events).foldl Deed.editTweens (q.rebuilt w.time.delta))
  /-- Each task at the end runs on after its step, or stands as a handler queued
  it. -/
  origin : ∀ p ∈ after.tweensOrNew.tasks,
    p ∈ (q.rebuilt w.time.delta).tasks ∨ ∃ d ∈ calls ++ events, d.queued? = some p
  /-- The callbacks of the tasks that finished are called once, in queue order. -/
  called : occasions calls
    = ((q.finishing w.time.delta).filterMap fun p => p.2.onComplete).map .call
  /-- Each task that finished is announced once, in queue order. -/
  announced : occasions events = (q.finishing w.time.delta).map fun p => .announce p.1
  /-- A task that a handler queues is there at the end as it was queued, unless
  a later deed cancels its number. -/
  queued : ∀ pre d post p, calls ++ events = pre ++ d :: post → d.queued? = some p →
    (∀ later ∈ post, later.cancels? ≠ some p.1) → p ∈ after.tweensOrNew.tasks
  /-- Its number is none of this pass, and stands for no other tween at the end. -/
  fresh : q.Numbered → ∀ pre d post p, calls ++ events = pre ++ d :: post → d.queued? = some p →
    p.1 ∉ q.ids ∧ ∀ t, (p.1, t) ∈ after.tweensOrNew.tasks → t = p.2

/-- One pass over a tween queue, whatever the handlers do: each live task is
stepped once, then the completion callbacks of those that finished are called,
then each of these is announced, and what handlers queue is left alone. -/
theorem tween_pass_steps_calls_announces (b : Behaviour κ σ α) (w : World κ σ α)
    (q : TweenQueue κ α) :
    let before : World κ σ α := { w with tweens := some q }
    ∃ calls events,
      TweenPass b before q ((before.recorded []).updateTweens b.recorded) calls events := by
  intro before
  have hafter := World.updateTweens_recorded b before []
  have hchain := World.chain_updateTweens b before
  refine ⟨b.deeds before.moved before.completions,
    b.deeds (before.completed b) before.announcements, ?_⟩
  rw [hafter]
  constructor
  case record => rfl
  case plain => rfl
  case made => exact World.queueCalls_tweenDeeds b before
  case found =>
    intro pre d post hsplit
    refine ⟨(World.found_tweenDeeds b before hsplit).1, ?_⟩
    unfold World.tweenDeeds at hchain
    rw [hsplit] at hchain
    exact hchain.split.1.tweens_eq_some rfl
  case left => exact ⟨hchain.frame.2.1, hchain.tweens_eq_some rfl⟩
  case origin => exact fun p hp => hchain.task_origin hp
  case called => exact occasions_deeds b before.moved before.completions
  case announced => exact occasions_deeds b (before.completed b) before.announcements
  case queued =>
    intro pre d post p hsplit hp hkeep
    unfold World.tweenDeeds at hchain
    rw [hsplit] at hchain
    exact hchain.queued_stays hp hkeep
  case fresh =>
    intro hq pre d post p hsplit hp
    exact World.fresh_tweenDeeds b before hq hsplit hp

end Result

end Stagecraft
