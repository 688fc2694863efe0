/-
Worlds in which a queue is missing.

A world may begin without a clock and without tweens. The first call that needs
one puts it in place, and that may be a call that fails, or one that a callback
makes in the pass over the other queue. Whoever does things to a world and
listens to what is answered cannot tell it from a world with empty queues.

# Plans

What is done to a world is a `Plan`: calls on the queues, time, passes, and
other changes. Each step may depend on what the steps before it were answered
and on the world, which is looked at with new queues where they are missing.
Callbacks, and the handlers of finished tweens, follow plans too, and as a plan
may run the passes, handlers are entered within handlers. A run that ends does
so to some depth, and what is proved here holds at every depth.

The one thing that no plan does is to ask whether a queue is there: any other
change of the world will do (`World.Blind`).

# The simulation

Two worlds are alike if they are the same with new queues where they are missing.
Each step takes alike worlds to alike worlds and answers the same in both. A
pass does so if its handlers do, so the proof goes by induction on the depth, and
for one depth by induction on the plan.
-/
import Stagecraft.Proofs.Frame.Tick

namespace Stagecraft

variable {κ σ τ α : Type}

-- ============================================================ alike worlds

namespace World

/-- The world with new queues where they are missing. -/
def furnished (w : World κ σ α) : World κ σ α :=
  { w with clock := some w.clockOrNew, tweens := some w.tweensOrNew }

/-- Worlds that differ at most in that one has a new queue where the other has none. -/
def Alike (u v : World κ σ α) : Prop := u.furnished = v.furnished

/-- A change that takes alike worlds to alike worlds. -/
def Blind (f : World κ σ α → World κ τ α) : Prop := ∀ u v, u.Alike v → (f u).Alike (f v)

namespace Blind

/-- It is enough that a world and the furnished one become alike. -/
theorem of_furnished {f : World κ σ α → World κ τ α} (h : ∀ w, (f w.furnished).Alike (f w)) :
    Blind f := by
  intro u v huv
  have hu := h u
  rw [show u.furnished = v.furnished from huv] at hu
  exact hu.symm.trans (h v)

theorem foldl {β : Type} {f : World κ σ α → β → World κ σ α}
    (h : ∀ b, Blind fun w => f w b) (bs : List β) : Blind fun w => bs.foldl f w := by
  induction bs with
  | nil => exact fun _ _ huv => huv
  | cons b rest ih => exact fun u v huv => ih _ _ (h b u v huv)

end Blind

end World

-- =============================================================== the calls

/-- What a call answers. -/
inductive Answer (α : Type) where
  | scheduled (result : Except (Fault α) Unit)
  | unscheduled (count : Nat)
  | animated (result : Except (Fault α) (Option TweenId))
  | queued (id : Option TweenId)
  | cancelled (found : Bool)

section Steps

variable [Elementary α] [Journal (Notice κ α) σ]

namespace QueueCall

variable [DecidableEq κ]

def answer (w : World κ σ α) : QueueCall κ α → Answer α
  | schedule c delay => .scheduled (w.schedule c delay).1
  | scheduleUnique c delay => .scheduled (w.scheduleUnique c delay).1
  | scheduleInterval c interval => .scheduled (w.scheduleInterval c interval).1
  | unschedule c => .unscheduled (w.unschedule c).1
  | animate target duration requests easing onComplete =>
    .animated (w.animate target duration requests easing onComplete).1
  | animateTween t => .queued (w.animateTween t).1
  | cancelTween id => .cancelled (w.cancelTween id).1

omit [Elementary α] [DecidableEq κ] in
private theorem fst_editClock_furnished (w : World κ σ α)
    (edit : Clock κ α → Except (Fault α) (Clock κ α)) (ns ns' : List (Notice κ α)) :
    (w.furnished.editClock edit ns).1 = (w.editClock edit ns').1 := by
  unfold World.editClock
  rw [show w.furnished.clockOrNew = w.clockOrNew from rfl]
  cases edit w.clockOrNew <;> rfl

omit [DecidableEq κ] in
private theorem fst_animateTween_furnished (w : World κ σ α) (t : Tween κ α) :
    (w.furnished.animateTween t).1 = (w.animateTween t).1 := by
  unfold World.animateTween
  split <;> rfl

omit [DecidableEq κ] in
private theorem fst_animate_furnished (w : World κ σ α) (target : PuppetId) (duration : α)
    (requests : List (String × AttrValue α)) (easing : Option String) (onComplete : Option κ) :
    (w.furnished.animate target duration requests easing onComplete).1
      = (w.animate target duration requests easing onComplete).1 := by
  unfold World.animate
  rw [show w.furnished.newTween target duration requests easing onComplete
    = w.newTween target duration requests easing onComplete from rfl]
  cases w.newTween target duration requests easing onComplete with
  | error f => rfl
  | ok t => exact congrArg Except.ok (fst_animateTween_furnished w t)

/-- What a call answers follows from the queues, new ones where they are missing. -/
theorem answer_furnished (w : World κ σ α) (call : QueueCall κ α) :
    call.answer w.furnished = call.answer w := by
  cases call with
  | schedule c delay => exact congrArg Answer.scheduled (fst_editClock_furnished w _ _ _)
  | scheduleUnique c delay => exact congrArg Answer.scheduled (fst_editClock_furnished w _ _ _)
  | scheduleInterval c interval =>
      exact congrArg Answer.scheduled (fst_editClock_furnished w _ _ _)
  | unschedule c => rfl
  | animate target duration requests easing onComplete =>
      exact congrArg Answer.animated (fst_animate_furnished w _ _ _ _ _)
  | animateTween t => exact congrArg Answer.queued (fst_animateTween_furnished w t)
  | cancelTween id => rfl

/-- A call answers the same in alike worlds. -/
theorem answer_of_alike {u v : World κ σ α} (h : u.Alike v) (call : QueueCall κ α) :
    call.answer u = call.answer v := by
  rw [← answer_furnished u, show u.furnished = v.furnished from h, answer_furnished]

/-- What a call leaves, with new queues where they are missing, follows from the world
with such queues. -/
theorem furnished_apply (w : World κ σ α) (call : QueueCall κ α) :
    (call.apply w).furnished
      = { w with
          clock := some (call.editClock w.clockOrNew)
          tweens := some (call.editTweens w w.tweensOrNew)
          host := tell (call.notes w) w.host } := by
  unfold World.furnished
  rw [clockOrNew_apply, tweensOrNew_apply, apply_eq]

theorem blind_apply (call : QueueCall κ α) : World.Blind fun w : World κ σ α => call.apply w := by
  refine .of_furnished fun w => ?_
  unfold World.Alike
  rw [furnished_apply, furnished_apply]
  cases call <;> rfl

end QueueCall

-- ============================================================== the passes

/-- Handlers that take alike worlds to alike worlds. -/
def Handlers.Blind (h : Handlers κ σ α) : Prop := ∀ o, World.Blind fun w => w.meet h o

namespace World

theorem blind_updateTime (dt : α) : Blind fun w : World κ σ α => w.updateTime dt := by
  refine .of_furnished fun w => ?_
  rw [updateTime_eq, updateTime_eq]
  rfl

omit [Journal (Notice κ α) σ] in
theorem alike_counted (w : World κ σ α) : w.furnished.counted.Alike w.counted := by
  unfold Alike furnished counted clockOrNew
  cases w.clock <;> rfl

omit [Journal (Notice κ α) σ] in
theorem alike_moved (w : World κ σ α) : w.furnished.moved.Alike w.moved := by
  unfold Alike furnished moved tweensOrNew
  cases w.tweens <;> rfl

variable {h : Handlers κ σ α} (hh : h.Blind)
include hh

/-- Nothing is due where there is no clock. -/
theorem blind_updateClock : Blind fun w => w.updateClock h := by
  refine .of_furnished fun w => ?_
  rw [updateClock_eq, updateClock_eq]
  exact Blind.foldl hh w.dueCalls _ _ w.alike_counted

/-- Nothing finishes where there are no tweens. -/
theorem blind_updateTweens : Blind fun w => w.updateTweens h := by
  refine .of_furnished fun w => ?_
  rw [updateTweens_eq, updateTweens_eq]
  exact Blind.foldl hh w.announcements _ _ (Blind.foldl hh w.completions _ _ w.alike_moved)

end World

end Steps

-- ================================================================= the log

/-- What is heard of a run: that a handler is entered, and what a call is answered. -/
inductive Heard (κ α : Type) where
  | entered (o : Occasion κ)
  | answered (call : QueueCall κ α) (answer : Answer α)

/-- A host with a log of what is heard. -/
structure Logged (κ σ α : Type) where
  host : σ
  log : List (Heard κ α)

instance [Journal (Notice κ α) σ] : Journal (Notice κ α) (Logged κ σ α) :=
  ⟨fun n l => { l with host := Journal.note n l.host }⟩

namespace World

/-- A world with a log. -/
def logged (w : World κ σ α) (log : List (Heard κ α)) : World κ (Logged κ σ α) α :=
  w.withHost ⟨w.host, log⟩

/-- A world without its log. -/
def unlogged (w : World κ (Logged κ σ α) α) : World κ σ α := w.withHost w.host.host

/-- Adds to the log. -/
def hear (w : World κ (Logged κ σ α) α) (heard : Heard κ α) : World κ (Logged κ σ α) α :=
  w.unlogged.logged (w.host.log ++ [heard])

theorem blind_hear (heard : Heard κ α) :
    Blind fun w : World κ (Logged κ σ α) α => w.hear heard :=
  .of_furnished fun _ => rfl

theorem Alike.unlogged {u v : World κ (Logged κ σ α) α} (h : u.Alike v) :
    u.unlogged.Alike v.unlogged :=
  congrArg World.unlogged h

theorem Alike.log {u v : World κ (Logged κ σ α) α} (h : u.Alike v) : u.host.log = v.host.log :=
  congrArg (fun w => w.host.log) h

theorem Alike.logged {u v : World κ σ α} (h : u.Alike v) (log : List (Heard κ α)) :
    (u.logged log).Alike (v.logged log) :=
  congrArg (fun w => World.logged w log) h

end World

-- =============================================================== the plans

/-- What is done to a world, step by step. -/
inductive Plan (κ σ α : Type) where
  | done
  /-- Looks at the world, with new queues where they are missing. -/
  | look (next : World κ σ α → Plan κ σ α)
  /-- Changes the world without asking whether a queue is there. -/
  | change (edit : World κ σ α → World κ σ α) (hblind : World.Blind edit) (next : Plan κ σ α)
  /-- Makes a call and hears its answer. -/
  | ask (call : QueueCall κ α) (next : Answer α → Plan κ σ α)
  /-- Lets time pass. -/
  | wait (dt : α) (next : Plan κ σ α)
  | passClock (next : Plan κ σ α)
  | passTweens (next : Plan κ σ α)

namespace Plan

variable [Elementary α] [DecidableEq κ] [Journal (Notice κ α) σ]

/-- The world that a plan leaves, when the passes enter these handlers. -/
def run (h : Handlers κ (Logged κ σ α) α) :
    Plan κ σ α → World κ (Logged κ σ α) α → World κ (Logged κ σ α) α
  | done, w => w
  | look next, w => (next w.unlogged.furnished).run h w
  | change edit _ next, w => next.run h ((edit w.unlogged).logged w.host.log)
  | ask call next, w =>
    (next (call.answer w)).run h (call.apply (w.hear (.answered call (call.answer w))))
  | wait dt next, w => next.run h (w.updateTime dt)
  | passClock next, w => next.run h (w.updateClock h)
  | passTweens next, w => next.run h (w.updateTweens h)

/-- The handlers that log that they are entered and go on. -/
def hearing (body : Occasion κ → World κ (Logged κ σ α) α → World κ (Logged κ σ α) α) :
    Handlers κ (Logged κ σ α) α where
  call c w := body (.call c) (w.hear (.entered (.call c)))
  finished id w := body (.announce id) (w.hear (.entered (.announce id)))

/-- The handlers that follow a plan for each occasion. Within the passes of their plans
handlers are entered again, and at depth 0 they do nothing more. -/
def handlers (plans : Occasion κ → Plan κ σ α) : Nat → Handlers κ (Logged κ σ α) α
  | 0 => hearing fun _ w => w
  | depth + 1 => hearing fun o w => (plans o).run (handlers plans depth) w

-- ========================================================== the simulation

omit [Elementary α] [DecidableEq κ] in
theorem blind_hearing
    {body : Occasion κ → World κ (Logged κ σ α) α → World κ (Logged κ σ α) α}
    (hbody : ∀ o, World.Blind (body o)) : (hearing body).Blind := by
  intro o u v huv
  cases o with
  | call c => exact hbody _ _ _ (World.blind_hear _ u v huv)
  | announce id =>
      have hnote : World.Blind fun w : World κ (Logged κ σ α) α => w.note (.tweenFinished id) :=
        .of_furnished fun _ => rfl
      exact hbody _ _ _ (World.blind_hear _ _ _ (hnote u v huv))

/-- Step by step a plan takes alike worlds to alike worlds. -/
theorem blind_run {h : Handlers κ (Logged κ σ α) α} (hh : h.Blind) (plan : Plan κ σ α) :
    World.Blind (plan.run h) := by
  induction plan with
  | done => exact fun _ _ huv => huv
  | look next ih =>
      intro u v huv
      show ((next u.unlogged.furnished).run h u).Alike ((next v.unlogged.furnished).run h v)
      rw [show u.unlogged.furnished = v.unlogged.furnished from huv.unlogged]
      exact ih _ u v huv
  | change edit hblind next ih =>
      intro u v huv
      refine ih _ _ ?_
      rw [huv.log]
      exact (hblind _ _ huv.unlogged).logged v.host.log
  | ask call next ih =>
      intro u v huv
      show ((next (call.answer u)).run h (call.apply (u.hear (.answered call (call.answer u))))).Alike
        ((next (call.answer v)).run h (call.apply (v.hear (.answered call (call.answer v)))))
      rw [call.answer_of_alike huv]
      exact ih _ _ _ (call.blind_apply _ _ (World.blind_hear _ u v huv))
  | wait dt next ih => exact fun u v huv => ih _ _ (World.blind_updateTime dt u v huv)
  | passClock next ih => exact fun u v huv => ih _ _ (World.blind_updateClock hh u v huv)
  | passTweens next ih => exact fun u v huv => ih _ _ (World.blind_updateTweens hh u v huv)

/-- So do handlers that follow plans, at every depth. -/
theorem blind_handlers (plans : Occasion κ → Plan κ σ α) (depth : Nat) :
    (handlers plans depth).Blind := by
  induction depth with
  | zero => exact blind_hearing fun _ _ _ huv => huv
  | succ depth ih => exact blind_hearing fun o => blind_run ih (plans o)

/-- Whatever is done to a world that begins without queues, and whatever its callbacks do:
the answers, the callbacks that are called and the tweens that are announced are those of
a world that begins with empty queues, in the same order, and so is the world at the end
but for queues that are missing. -/
theorem missing_queues_go_unnoticed (plans : Occasion κ → Plan κ σ α) (depth : Nat)
    (plan : Plan κ σ α) (w : World κ σ α) :
    let lazily := plan.run (handlers plans depth)
      (({ w with clock := none, tweens := none } : World κ σ α).logged [])
    let eagerly := plan.run (handlers plans depth)
      (({ w with clock := some .empty, tweens := some .empty } : World κ σ α).logged [])
    lazily.host.log = eagerly.host.log
      ∧ lazily.unlogged.furnished = eagerly.unlogged.furnished := by
  intro lazily eagerly
  have halike : lazily.Alike eagerly := blind_run (blind_handlers plans depth) plan _ _ rfl
  exact ⟨halike.log, halike.unlogged⟩

/-- A callback that cancels a tween puts the tweens in place in the pass over the clock.
Two answers and the callback are heard. -/
example :
    let plans : Occasion ℕ → Plan ℕ (List (Notice ℕ Float)) Float :=
      fun _ => .ask (.cancelTween ⟨0⟩) fun _ => .done
    let plan : Plan ℕ (List (Notice ℕ Float)) Float :=
      .ask (.schedule 7 0.5) fun _ => .wait 1.0 (.passClock (.passTweens .done))
    let w := plan.run (handlers plans 1) ((World.bare 1.0 []).logged [])
    w.host.log.length = 3 ∧ w.clock.isSome ∧ w.tweens.isSome := by
  decide +kernel

end Plan

end Stagecraft
