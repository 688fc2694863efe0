/-
What the demonstration says in a frame.

Its handlers change nothing but the record: one says that the animation is
complete, one that a tween finished, and one where the actor is. So a pass
leaves the world in which its first handler is entered, with more said, and
what is said of the completion can be read off the occasions (`tells_meets`).

The clock of a demonstration holds reports only, and its tweens are the one
that moves the actor, until this has finished. So the pass over the clock says
nothing of a completion, and the pass over the tweens says it in the frame in
which this tween is taken past its duration, and in no other.
-/
import Stagecraft.Demo
import Stagecraft.Proofs.Game.Runs
import Stagecraft.Proofs.Tweens.Course

namespace Stagecraft

variable {α : Type}

namespace Demo

-- ======================================================== the completion

/-- What may be said of the end of an animation. -/
inductive Completion where
  | arrived (frame : Nat)
  | announced (id : TweenId)
  deriving DecidableEq, Repr

def Entry.completion? : Entry α → Option Completion
  | .line (.arrived frame) => some (.arrived frame)
  | .line (.announced id) => some (.announced id)
  | _ => none

/-- What a record says of ends of animations, in order. -/
def completions (r : Record α) : List Completion := r.toList.filterMap Entry.completion?

theorem completions_push (r : Record α) (e : Entry α) :
    completions (r.push e) = completions r ++ e.completion?.toList := by
  unfold completions
  rw [Array.toList_push, List.filterMap_append]
  cases he : e.completion? with
  | none => rw [List.filterMap_cons_none he]; rfl
  | some c => rw [List.filterMap_cons_some he]; rfl

/-- A notice says nothing of completions. -/
theorem completions_note (w : World Cue (Record α) α) (n : Notice Cue α) :
    completions (w.note n).host = completions w.host :=
  (completions_push w.host (.notice n)).trans (List.append_nil _)

/-- From the first world to the second nothing happens but that something is said,
and of completions this is the list. -/
structure Tells (cs : List Completion) (w w' : World Cue (Record α) α) : Prop where
  time : w'.time = w.time
  config : w'.config = w.config
  clock : w'.clock = w.clock
  tweens : w'.tweens = w.tweens
  stage : w'.stage = w.stage
  said : completions w'.host = completions w.host ++ cs

namespace Tells

variable {cs ds : List Completion} {u v w : World Cue (Record α) α}

theorem refl (w : World Cue (Record α) α) : Tells [] w w :=
  ⟨rfl, rfl, rfl, rfl, rfl, (List.append_nil _).symm⟩

theorem trans (huv : Tells cs u v) (hvw : Tells ds v w) : Tells (cs ++ ds) u w where
  time := hvw.time.trans huv.time
  config := hvw.config.trans huv.config
  clock := hvw.clock.trans huv.clock
  tweens := hvw.tweens.trans huv.tweens
  stage := hvw.stage.trans huv.stage
  said := by rw [hvw.said, huv.said, List.append_assoc]

theorem say (w : World Cue (Record α) α) (l : Line α) :
    Tells (Entry.completion? (.line l)).toList w (say l w) :=
  ⟨rfl, rfl, rfl, rfl, rfl, completions_push w.host (.line l)⟩

theorem note (n : Notice Cue α) (w : World Cue (Record α) α) : Tells [] w (w.note n) :=
  ⟨rfl, rfl, rfl, rfl, rfl, (completions_note w n).trans (List.append_nil _).symm⟩

end Tells

theorem tells_report (w : World Cue (Record α) α) (p : PuppetId) : Tells [] w (report w p) := by
  unfold report
  split
  · exact .say w (.position _ _ _)
  · exact .refl w

/-- What is said of completions on an occasion. -/
def saidOn (frame : Nat) : Occasion Cue → List Completion
  | .call .arrived => [.arrived frame]
  | .call (.report _) => []
  | .announce id => [.announced id]

theorem tells_meet (w : World Cue (Record α) α) (o : Occasion Cue) :
    Tells (saidOn w.time.frameCount o) w (w.meet handlers o) := by
  match o with
  | .call .arrived => exact .say w (.arrived _)
  | .call (.report p) => exact tells_report w p
  | .announce id => exact (Tells.note (.tweenFinished id) w).trans (.say _ (.announced id))

/-- A pass says what is said on its occasions, one after the other. -/
theorem tells_meets (os : List (Occasion Cue)) (w : World Cue (Record α) α) :
    Tells (os.flatMap (saidOn w.time.frameCount)) w (os.foldl (World.meet handlers) w) := by
  induction os generalizing w with
  | nil => exact .refl w
  | cons o os ih =>
      have hfirst := tells_meet w o
      have hrest := ih (w.meet handlers o)
      rw [hfirst.time] at hrest
      exact hfirst.trans hrest

-- ============================================================= the passes

/-- The tweens of the demonstration: the one that moves the actor, until it has
finished. -/
def tweens (t? : Option (Tween Cue α)) : TweenQueue Cue α :=
  ⟨t?.toList.map fun t => (⟨0⟩, t), 1⟩

theorem tweensOrNew_eq {w : World Cue (Record α) α} {t? : Option (Tween Cue α)}
    (hw : w.tweens = some (tweens t?)) : w.tweensOrNew = tweens t? := by
  unfold World.tweensOrNew
  rw [hw]
  rfl

variable [Elementary α]

/-- The beginning of a frame says nothing of completions. -/
theorem completions_begun (g : Game Cue (Record α) α) (dt : α) :
    completions (g.begun dt).host = completions g.world.host := by
  have happly : ∀ w : World Cue (Record α) α,
      completions w.applyConfig.host = completions w.host := by
    intro w
    unfold World.applyConfig
    split
    · rfl
    · dsimp only
      split
      · exact completions_note _ _
      · rfl
  have hupdate : ∀ x : α, completions (g.world.updateTime x).host = completions g.world.host := by
    intro x
    rw [World.updateTime_eq]
    dsimp only
    split
    · rfl
    · exact completions_note g.world (.deltaIgnored x)
  exact (happly _).trans (hupdate _)

/-- Only reports wait on the clock. -/
def ReportsOnly (w : World Cue (Record α) α) : Prop :=
  ∀ e ∈ w.clockOrNew.queue, ∃ p, e.callback = .report p

variable {w : World Cue (Record α) α}

omit [Elementary α] in
theorem ReportsOnly.of_clock {w' : World Cue (Record α) α} (h : ReportsOnly w)
    (hclock : w'.clock = w.clock) : ReportsOnly w' := by
  unfold ReportsOnly World.clockOrNew at h ⊢
  rw [hclock]
  exact h

/-- Counting down leaves reports. -/
theorem ReportsOnly.counted (h : ReportsOnly w) : ReportsOnly w.counted := by
  have hqueue : w.counted.clockOrNew.queue
      = w.clockOrNew.queue.filterMap (ScheduledCall.left? w.time.delta) := by
    unfold World.counted World.clockOrNew
    cases w.clock with
    | none => rfl
    | some q =>
        dsimp only [Option.map_some, Option.getD_some]
        rw [Clock.advance_eq]
  intro e he
  rw [hqueue] at he
  obtain ⟨e', he', hleft⟩ := List.mem_filterMap.1 he
  obtain ⟨p, hp⟩ := h e' he'
  refine ⟨p, ?_⟩
  unfold ScheduledCall.left? at hleft
  split at hleft
  · split at hleft <;> cases hleft
    exact hp
  · cases hleft
    exact hp

/-- The pass over a clock of reports says nothing of completions. -/
theorem ReportsOnly.updateClock (h : ReportsOnly w) :
    Tells [] w.counted (w.updateClock handlers) := by
  have hdue : w.dueCalls.flatMap (saidOn w.counted.time.frameCount) = [] := by
    rw [List.flatMap_eq_nil_iff]
    intro o ho
    unfold World.dueCalls at ho
    rw [Clock.due_eq, List.map_map] at ho
    obtain ⟨e, he, rfl⟩ := List.mem_map.1 ho
    obtain ⟨p, hp⟩ := h e (List.mem_of_mem_filter he)
    show saidOn _ (.call e.callback) = []
    rw [hp]
    rfl
  rw [World.updateClock_eq, ← hdue]
  exact tells_meets w.dueCalls w.counted

/-- The pass over the tweens says what is said on completions and announcements. -/
theorem tells_updateTweens (w : World Cue (Record α) α) :
    Tells ((w.completions ++ w.announcements).flatMap (saidOn w.time.frameCount)) w.moved
      (w.updateTweens handlers) := by
  rw [World.updateTweens_eq, ← List.foldl_append]
  exact tells_meets _ w.moved

section Crossing

variable {t : Tween Cue α} {t? : Option (Tween Cue α)}

theorem tweens_moved (hw : w.tweens = some (tweens t?)) :
    w.moved.tweens = some ((tweens t?).rebuilt w.time.delta) := by
  unfold World.moved
  rw [hw]
  rfl

/-- A step that does not take the tween past its duration says nothing. -/
theorem updateTweens_on (hw : w.tweens = some (tweens (some t))) (hlive : t.isDone = false)
    (hon : (t.moved w.time.delta).isDone = false) :
    Tells [] w.moved (w.updateTweens handlers)
      ∧ w.moved.tweens = some (tweens (some (t.moved w.time.delta))) := by
  have hfinishing : (tweens (some t)).finishing w.time.delta = [] := by
    simp [tweens, TweenQueue.finishing, TweenQueue.stepped, TweenQueue.live, Task.isLive,
      Task.moved, hlive, hon]
  have hrunning : (tweens (some t)).rebuilt w.time.delta
      = tweens (some (t.moved w.time.delta)) := by
    simp [tweens, TweenQueue.rebuilt, TweenQueue.running, TweenQueue.stepped, TweenQueue.live,
      Task.isLive, Task.moved, hlive, hon]
  have htells := tells_updateTweens w
  unfold World.completions World.announcements at htells
  rw [tweensOrNew_eq hw, hfinishing] at htells
  exact ⟨htells, (tweens_moved hw).trans (congrArg some hrunning)⟩

/-- A step that takes it past its duration says that the animation is complete, and
then that the tween finished. -/
theorem updateTweens_past (hw : w.tweens = some (tweens (some t))) (hlive : t.isDone = false)
    (hpast : (t.moved w.time.delta).isDone = true) (hcue : t.onComplete = some .arrived) :
    Tells [.arrived w.time.frameCount, .announced ⟨0⟩] w.moved (w.updateTweens handlers)
      ∧ w.moved.tweens = some (tweens none) := by
  have hfinishing : (tweens (some t)).finishing w.time.delta
      = [(⟨0⟩, t.moved w.time.delta)] := by
    simp [tweens, TweenQueue.finishing, TweenQueue.stepped, TweenQueue.live, Task.isLive,
      Task.moved, hlive, hpast]
  have hrunning : (tweens (some t)).rebuilt w.time.delta = tweens none := by
    simp [tweens, TweenQueue.rebuilt, TweenQueue.running, TweenQueue.stepped, TweenQueue.live,
      Task.isLive, Task.moved, hlive, hpast]
  have htells := tells_updateTweens w
  have hcalled : [(⟨0⟩, t.moved w.time.delta)].filterMap (fun p : Task Cue α => p.2.onComplete)
      = [.arrived] := List.filterMap_cons_some hcue
  unfold World.completions World.announcements at htells
  rw [tweensOrNew_eq hw, hfinishing, hcalled] at htells
  exact ⟨htells, (tweens_moved hw).trans (congrArg some hrunning)⟩

/-- After that there is nothing to say. -/
theorem updateTweens_after (hw : w.tweens = some (tweens none)) :
    Tells [] w.moved (w.updateTweens handlers) ∧ w.moved.tweens = some (tweens none) := by
  have htells := tells_updateTweens w
  unfold World.completions World.announcements at htells
  rw [tweensOrNew_eq hw] at htells
  exact ⟨htells, tweens_moved hw⟩

end Crossing

end Demo

end Stagecraft
