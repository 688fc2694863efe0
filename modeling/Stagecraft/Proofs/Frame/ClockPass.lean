/-
The pass over the clock.

The queue is rebuilt before the first callback is called: an entry that
is not due has less time left, a due one that recurs is armed again, and
both keep their places. Which callbacks are called, how often and in
which order is read off the queue as it stood before, so nothing that a
callback does can change it, and a pass ends after as many callbacks as
entries were due.

What callbacks do to the clock is done to the rebuilt queue, in the order
in which they do it. A call that they schedule waits with its full delay
at the end of the pass, unless a callback after it drops it.
-/
import Stagecraft.Proofs.Frame.Chain

namespace Stagecraft

variable {κ σ α : Type} [Elementary α]

-- ======================================================= the rebuilt queue

namespace ScheduledCall

/-- Whether the time of an entry runs out within `dt`. -/
def runsOut (dt : α) (e : ScheduledCall κ α) : Bool := decide (e.remaining - dt ≤ 0.0)

/-- What stays of an entry after `dt`: one whose time does not run out has less
time left, a recurring one waits for its full interval again. -/
def left? (dt : α) (e : ScheduledCall κ α) : Option (ScheduledCall κ α) :=
  if e.remaining - dt ≤ 0.0 then
    if (0.0 : α) < e.interval then some { e with remaining := e.interval } else none
  else some { e with remaining := e.remaining - dt }

end ScheduledCall

namespace Clock

/-- The callbacks that are due are those of the entries that run out. -/
theorem due_eq (q : Clock κ α) (dt : α) :
    q.due dt = (q.queue.filter (ScheduledCall.runsOut dt)).map ScheduledCall.callback := by
  unfold due counted
  rw [List.filter_map, List.map_map]
  rfl

/-- The rebuilt queue, entry by entry. -/
theorem advance_eq (q : Clock κ α) (dt : α) :
    q.advance dt = ⟨q.queue.filterMap (ScheduledCall.left? dt)⟩ := by
  unfold advance counted
  rw [List.filterMap_map]
  congr 1
  refine List.filterMap_congr fun e _ => ?_
  show (e.countDown dt).rearm? = e.left? dt
  unfold ScheduledCall.rearm? ScheduledCall.left? ScheduledCall.isDue ScheduledCall.isRecurring
    ScheduledCall.countDown
  dsimp only
  by_cases hdue : e.remaining - dt ≤ 0.0
  · rw [if_pos (decide_eq_true hdue), if_pos hdue]
    by_cases hrecurring : (0.0 : α) < e.interval
    · rw [if_pos (decide_eq_true hrecurring), if_pos hrecurring]
    · rw [if_neg (by simpa using hrecurring), if_neg hrecurring]
  · rw [if_neg (by simpa using hdue), if_neg hdue]

end Clock

-- ============================================================== the pass

namespace World

/-- The world in which the first due callback is called. -/
def counted (w : World κ σ α) : World κ σ α :=
  { w with clock := w.clock.map fun q => q.advance w.time.delta }

/-- What the pass over the clock enters handlers for. -/
def dueCalls (w : World κ σ α) : List (Occasion κ) :=
  (w.clockOrNew.due w.time.delta).map .call

variable [Journal (Notice κ α) σ]

/-- The pass: the queue is rebuilt, then due callbacks are called. -/
theorem updateClock_eq (h : Handlers κ σ α) (w : World κ σ α) :
    w.updateClock h = w.dueCalls.foldl (meet h) w.counted := by
  unfold updateClock dueCalls counted clockOrNew
  rw [List.foldl_map]
  obtain ⟨time, config, clock, tweens, gallery, stage, host⟩ := w
  cases clock with
  | none => rfl
  | some q => rfl

variable [DecidableEq κ]

theorem updateClock_recorded (b : Behaviour κ σ α) (w : World κ σ α)
    (record : List (Deed κ σ α)) :
    (w.recorded record).updateClock b.recorded
      = (w.updateClock b.handlers).recorded (record ++ b.deeds w.counted w.dueCalls) := by
  rw [updateClock_eq, updateClock_eq]
  exact foldl_meet_recorded b w.dueCalls w.counted record

theorem chain_updateClock (b : Behaviour κ σ α) (w : World κ σ α) :
    Chain w.counted (b.deeds w.counted w.dueCalls) (w.updateClock b.handlers) := by
  rw [updateClock_eq]
  exact chain_deeds b w.counted w.dueCalls

/-- One pass over a clock, whatever the callbacks do: those of the entries that
run out are called once for each such entry, in queue order; the queue at the
end is the rebuilt one with the edits of the callbacks in order, each callback
finds it with the edits before its own, and what a callback schedules is in it
with the full delay unless a later edit drops it. -/
theorem clock_pass_calls_what_was_due (b : Behaviour κ σ α) (w : World κ σ α) (q : Clock κ α) :
    let before : World κ σ α := { w with clock := some q }
    let after := (before.recorded []).updateClock b.recorded
    let deeds := after.host.record
    let rebuilt : Clock κ α := ⟨q.queue.filterMap (ScheduledCall.left? w.time.delta)⟩
    let edited (calls : List (QueueCall κ α)) : Clock κ α :=
      calls.foldl (fun q call => call.editClock q) rebuilt
    after.plain = before.updateClock b.handlers
      ∧ occasions deeds
        = (q.queue.filter (ScheduledCall.runsOut w.time.delta)).map (fun e => .call e.callback)
      ∧ queueCalls deeds = deeds.flatMap b.callsAt
      ∧ after.clock = some (edited (queueCalls deeds))
      ∧ (∀ pre d post, deeds = pre ++ d :: post → d.world.clock = some (edited (queueCalls pre)))
      ∧ ∀ pre d post e, deeds = pre ++ d :: post → d.scheduled? = some e →
          (∀ later ∈ post, later.drops e.callback = false) →
          e ∈ (edited (queueCalls deeds)).queue := by
  intro before after deeds rebuilt edited
  have hdeeds : deeds = b.deeds before.counted before.dueCalls :=
    congrArg (fun v => v.host.record) (updateClock_recorded b before [])
  have hafter : after = (before.updateClock b.handlers).recorded deeds := by
    rw [hdeeds]
    exact updateClock_recorded b before []
  have hclock : before.counted.clock = some rebuilt :=
    congrArg some (Clock.advance_eq q w.time.delta)
  have hchain : Chain before.counted deeds (before.updateClock b.handlers) := by
    rw [hdeeds]
    exact chain_updateClock b before
  have hend : after.clock = some (edited (queueCalls deeds)) := by
    rw [hafter]
    exact hchain.clock_eq_some hclock
  refine ⟨by rw [hafter, plain_recorded], ?_, ?_, hend, ?_, ?_⟩
  · rw [hdeeds, occasions_deeds]
    show (q.due w.time.delta).map Occasion.call = _
    rw [Clock.due_eq, List.map_map]
    rfl
  · rw [hdeeds]
    exact queueCalls_deeds b before.counted before.dueCalls
  · intro pre d post hsplit
    rw [hsplit] at hchain
    exact hchain.split.1.clock_eq_some hclock
  · intro pre d post e hsplit he hkeep
    rw [hsplit]
    exact mem_foldl_of_scheduled? he hkeep rebuilt

end World

end Stagecraft
