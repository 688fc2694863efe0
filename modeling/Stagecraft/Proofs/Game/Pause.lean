/-
Frames of a game that is paused.

A pause is no path of its own. A frame of a paused game runs in full, with
a delta of zero times the scale of the world, and nothing that waits may
take notice of it. That rests on two facts: what such a delta does to a
number, and what can wait in the queues of a game at all.

# Zero is not always nothing

Zero at a finite scale is one of the two zeros. Taking either away from a
number that is no zero changes nothing, and adding either changes nothing
but the negative zero. So a frame is idle if no entry of the clock has
zero or less to wait for, and no tween, nor the world, has run for
negative zero seconds.

# What a run can lead to

Every operation keeps it so (`World.Steady`). An entry waits for a delay
above zero, and what an advance leaves in the clock has time left or has
been armed again. Elapsed seconds begin at the positive zero, and no sum
with such a number is the negative one. No delta matters for this, so a
game may have had any before.

That no handler is entered is told by the handlers: any handlers, made to
write down when they are entered (`Handlers.watched`), have an empty
record in the end.
-/
import Stagecraft.Proofs.Game.Time
import Stagecraft.Proofs.Tweens.Records

namespace Stagecraft

-- ========================================================= the two queues

/-- No time of an entry has run out. -/
def Clock.Waiting {κ : Type} (q : Clock κ Float) : Prop := ∀ e ∈ q.queue, ¬e.remaining ≤ 0.0

/-- No tween has run for negative zero seconds. -/
def TweenQueue.Unsigned {κ : Type} (q : TweenQueue κ Float) : Prop :=
  ∀ p ∈ q.tasks, p.2.elapsed ≠ -0.0

/-- A tween that has been stepped from its beginning on. -/
def Tween.Stepped {κ : Type} (t : Tween κ Float) : Prop :=
  ∃ deltas : List Float, t.elapsed = deltas.foldl (· + ·) 0.0

theorem Tween.Stepped.unsigned {κ : Type} {t : Tween κ Float} (h : t.Stepped) :
    t.elapsed ≠ -0.0 := by
  obtain ⟨deltas, hdeltas⟩ := h
  rw [hdeltas]
  exact List.foldlRecOn (motive := fun x => x ≠ -0.0) deltas _ Double.zero_ne_negZero
    fun _ hx dt _ => Double.add_ne_negZero hx dt

variable {κ σ : Type}

namespace Clock

theorem not_le_of_isDelay {x : Float} (h : isDelay x = true) : ¬x ≤ 0.0 := by
  unfold isDelay at h
  simp only [Bool.and_eq_true, Bool.not_eq_true', decide_eq_false_iff_not] at h
  exact h.1.2

/-- What an advance leaves of an entry has not run out. -/
theorem not_le_of_rearm? {e e' : ScheduledCall κ Float} (h : e.rearm? = some e') :
    ¬e'.remaining ≤ 0.0 := by
  unfold ScheduledCall.rearm? at h
  split at h
  · split at h
    · next hrecurring =>
      cases h
      exact Double.not_le_zero_of_pos (of_decide_eq_true hrecurring)
    · cases h
  · next hdue =>
    cases h
    exact fun hle => hdue (decide_eq_true hle)

section Edits

variable [DecidableEq κ]

omit [DecidableEq κ] in
theorem waiting_advance (q : Clock κ Float) (dt : Float) : (q.advance dt).Waiting := by
  intro e he
  obtain ⟨e₀, -, hkeep⟩ := List.mem_filterMap.1 he
  exact not_le_of_rearm? hkeep

theorem waiting_run {q : Clock κ Float} (h : q.Waiting) (op : Op κ Float) :
    (op.run q).Waiting := by
  intro e he
  rw [Op.run_eq, List.mem_append, List.mem_filterMap] at he
  -- what is left of an entry that was there, or what the operation added
  rcases he with ⟨e₀, he₀, hkeep⟩ | hadded
  · have hold := h e₀ he₀
    cases op with
    | advance dt => exact not_le_of_rearm? hkeep
    | schedule c delay | scheduleInterval c interval =>
        cases hkeep
        exact hold
    | scheduleUnique c delay | unschedule c =>
        dsimp only [Op.keep?] at hkeep
        split at hkeep <;> cases hkeep
        exact hold
  · cases op with
    | schedule c x | scheduleUnique c x | scheduleInterval c x =>
        dsimp only [Op.added] at hadded
        split at hadded
        · next hdelay =>
          rw [List.mem_singleton.1 hadded]
          exact not_le_of_isDelay hdelay
        · cases hadded
    | unschedule c | advance dt => cases hadded

theorem waiting_editClock {q : Clock κ Float} (h : q.Waiting) (call : QueueCall κ Float) :
    (call.editClock q).Waiting := by
  intro e he
  rcases List.mem_append.1 he with hold | hnew
  · exact h e (List.mem_filter.1 hold).1
  · rw [Option.mem_toList] at hnew
    cases call with
    | schedule c x | scheduleUnique c x | scheduleInterval c x =>
        dsimp only [QueueCall.entry?] at hnew
        split at hnew
        · next hdelay =>
          cases hnew
          exact not_le_of_isDelay hdelay
        · cases hnew
    | _ => cases hnew

end Edits

theorem waiting_empty : (empty : Clock κ Float).Waiting := fun _ he => absurd he List.not_mem_nil

/-- Nothing is due in no time. -/
theorem due_isZero {q : Clock κ Float} (h : q.Waiting) {z : Float} (hz : Double.IsZero z) :
    q.due z = [] := by
  rw [due_eq, List.map_eq_nil_iff, List.filter_eq_nil_iff]
  intro e he
  unfold ScheduledCall.runsOut
  rw [Double.sub_isZero hz (Double.not_isZero_of_not_le (h e he)), decide_eq_true_eq]
  exact h e he

/-- The queue is the same after no time. -/
theorem advance_isZero {q : Clock κ Float} (h : q.Waiting) {z : Float} (hz : Double.IsZero z) :
    q.advance z = q := by
  have hsame : q.queue.filterMap (ScheduledCall.left? z) = q.queue := by
    refine (List.filterMap_congr fun e he => ?_).trans List.filterMap_some
    unfold ScheduledCall.left?
    rw [Double.sub_isZero hz (Double.not_isZero_of_not_le (h e he)), if_neg (h e he)]
  rw [advance_eq, hsame]

end Clock

namespace TweenQueue

theorem unsigned_empty : (empty : TweenQueue κ Float).Unsigned :=
  fun _ hp => absurd hp List.not_mem_nil

theorem unsigned_clear (q : TweenQueue κ Float) : q.clear.Unsigned :=
  fun _ hp => absurd hp List.not_mem_nil

theorem unsigned_push {q : TweenQueue κ Float} (h : q.Unsigned) {t : Tween κ Float}
    (ht : t.elapsed ≠ -0.0) : (q.push t).2.Unsigned := by
  intro p hp
  rcases List.mem_append.1 hp with hold | hnew
  · exact h p hold
  · rw [List.mem_singleton.1 hnew]
    exact ht

theorem unsigned_set {q : TweenQueue κ Float} (h : q.Unsigned) (id : TweenId) {t : Tween κ Float}
    (ht : t.elapsed ≠ -0.0) : (q.set id t).Unsigned := by
  intro p hp
  obtain ⟨r, hr, rfl⟩ := List.mem_map.1 hp
  split
  · exact ht
  · exact h r hr

theorem unsigned_updateAt {q : TweenQueue κ Float} (h : q.Unsigned) (id : TweenId) (dt : Float)
    (s : Stage Float) : (q.updateAt id dt s).1.Unsigned := by
  unfold updateAt
  split
  · exact h
  · next t ht => exact unsigned_set h id (Double.add_ne_negZero (h _ (mem_of_get? ht)) dt)

theorem unsigned_rebuilt {q : TweenQueue κ Float} (h : q.Unsigned) (dt : Float) :
    (q.rebuilt dt).Unsigned := by
  intro p hp
  obtain ⟨r, hr, rfl⟩ := List.mem_map.1 (List.mem_filter.1 hp).1
  exact Double.add_ne_negZero (h r (List.mem_filter.1 hr).1) dt

theorem unsigned_editTweens {q : TweenQueue κ Float} (h : q.Unsigned) {w : World κ σ Float}
    {call : QueueCall κ Float} (ht : ∀ t, call.tween? w = some t → t.elapsed ≠ -0.0) :
    (call.editTweens w q).Unsigned := by
  intro p hp
  rcases QueueCall.mem_of_mem_editTweens hp with hold | ⟨t, htween, rfl⟩
  · exact h p hold
  · exact ht t htween

/-- A step of no time leaves each task as it is. -/
theorem stepped_isZero {q : TweenQueue κ Float} (h : q.Unsigned) {z : Float}
    (hz : Double.IsZero z) : q.stepped z = q.live := by
  refine (List.map_congr_left fun p hp => ?_).trans (List.map_id q.live)
  unfold Task.moved Tween.moved
  rw [Double.add_isZero hz (h p (List.mem_filter.1 hp).1)]
  rfl

/-- No tween finishes in no time. -/
theorem finishing_isZero {q : TweenQueue κ Float} (h : q.Unsigned) {z : Float}
    (hz : Double.IsZero z) : q.finishing z = [] := by
  unfold finishing
  rw [stepped_isZero h hz, List.filter_eq_nil_iff]
  intro p hp
  have hlive := (List.mem_filter.1 hp).2
  unfold Task.isLive at hlive
  rw [Bool.not_eq_true'] at hlive
  rw [hlive]
  exact Bool.false_ne_true

/-- What runs on after no time are the live tasks. -/
theorem running_isZero {q : TweenQueue κ Float} (h : q.Unsigned) {z : Float}
    (hz : Double.IsZero z) : q.running z = q.live := by
  unfold running
  rw [stepped_isZero h hz]
  unfold live
  rw [List.filter_filter]
  simp only [Bool.and_self]

end TweenQueue

-- ========================================================== steady worlds

/-- An edit that hands over a tween hands over one that has been stepped from its
beginning on: there is no other way to come by a tween. -/
def Edit.Honest : Edit κ σ Float → Prop
  | call (.animateTween t) | push t | replace _ t => t.Stepped
  | _ => True

/-- A script whose edits are honest. -/
def Script.Honest (script : Script κ σ Float) : Prop := ∀ o w, ∀ e ∈ script.edits o w, e.Honest

/-- A step that is no edit, or an honest one. -/
def Game.Step.Honest : Game.Step κ σ Float → Prop
  | edit e => e.Honest
  | _ => True

namespace World

/-- Nothing in the world takes notice of a zero delta. -/
structure Steady (w : World κ σ Float) : Prop where
  clock : w.clockOrNew.Waiting
  tweens : w.tweensOrNew.Unsigned
  time : w.time.elapsed ≠ -0.0

section Passes

/-- The pass over the clock begins with an advance. -/
theorem clockOrNew_counted (w : World κ σ Float) :
    w.counted.clockOrNew = w.clockOrNew.advance w.time.delta := by
  unfold counted clockOrNew
  cases w.clock <;> rfl

theorem Steady.counted {w : World κ σ Float} (h : w.Steady) : w.counted.Steady := by
  refine ⟨?_, h.tweens, h.time⟩
  rw [clockOrNew_counted]
  exact Clock.waiting_advance w.clockOrNew w.time.delta

theorem Steady.moved {w : World κ σ Float} (h : w.Steady) : w.moved.Steady := by
  refine ⟨h.clock, ?_, h.time⟩
  rw [tweensOrNew_moved]
  exact TweenQueue.unsigned_rebuilt h.tweens w.time.delta

end Passes

/-- A tween that is made has not run yet. -/
theorem elapsed_of_newTween {w : World κ σ Float} {target : PuppetId} {duration : Float}
    {requests : List (String × AttrValue Float)} {easing : Option String} {onComplete : Option κ}
    {t : Tween κ Float} (h : w.newTween target duration requests easing onComplete = .ok t) :
    t.elapsed = 0.0 := by
  unfold newTween at h
  cases hmade : (Tween.new w.stage target duration requests
    : Except (Fault Float) (Tween κ Float)) with
  | error f =>
      rw [hmade] at h
      cases h
  | ok t₁ =>
      rw [hmade] at h
      cases heased : t₁.withEasing easing with
      | error f =>
          dsimp only [bind, Except.bind] at h
          rw [heased] at h
          cases h
      | ok t₂ =>
          dsimp only [bind, Except.bind] at h
          rw [heased] at h
          cases h
          exact (Tween.elapsed_of_withEasing heased).trans (Tween.new_parts hmade).2.1

/-- A tween that a call queues has not run yet, or is the one handed over. -/
theorem unsigned_of_tween? {w : World κ σ Float} {call : QueueCall κ Float}
    (h : (Edit.call call : Edit κ σ Float).Honest) {t : Tween κ Float}
    (ht : call.tween? w = some t) : t.elapsed ≠ -0.0 := by
  have hoffered := (Option.filter_eq_some_iff.1 ht).1
  cases call with
  | animateTween t₀ =>
      cases hoffered
      exact Tween.Stepped.unsigned h
  | animate target duration requests easing onComplete =>
      dsimp only [QueueCall.offered?] at hoffered
      cases hnew : w.newTween target duration requests easing onComplete with
      | error f =>
          rw [hnew] at hoffered
          cases hoffered
      | ok t₀ =>
          rw [hnew] at hoffered
          cases hoffered
          rw [elapsed_of_newTween hnew]
          exact Double.zero_ne_negZero
  | schedule c x | scheduleUnique c x | scheduleInterval c x | unschedule c | cancelTween id =>
      cases hoffered

variable [DecidableEq κ] [Journal (Notice κ Float) σ]

/-- What holds of a part of the world, or of the new one in place of a missing
part, still does after a change of the part that keeps it. -/
private theorem getD_map_of {β : Type} {P : β → Prop} {f : β → β} {d : β} (hd : P d)
    (hf : ∀ q, P q → P (f q)) {part : Option β} (h : P (part.getD d)) :
    P ((part.map f).getD d) := by
  cases part with
  | none => exact hd
  | some q => exact hf q h

omit [DecidableEq κ] in
theorem Steady.note {w : World κ σ Float} (h : w.Steady) (n : Notice κ Float) :
    (w.note n).Steady := ⟨h.clock, h.tweens, h.time⟩

/-- No honest edit unsettles the world. -/
theorem Steady.edit {w : World κ σ Float} (h : w.Steady) {e : Edit κ σ Float} (he : e.Honest) :
    (e.apply w).Steady := by
  have htime : (e.apply w).time.elapsed ≠ -0.0 := by
    rw [(Kept.edit w e).time]
    exact h.time
  cases e with
  | call c =>
      refine ⟨?_, ?_, htime⟩
      · show (c.apply w).clockOrNew.Waiting
        rw [QueueCall.clockOrNew_apply]
        exact Clock.waiting_editClock h.clock c
      · show (c.apply w).tweensOrNew.Unsigned
        rw [QueueCall.tweensOrNew_apply]
        exact TweenQueue.unsigned_editTweens h.tweens fun t ht => unsigned_of_tween? he ht
  | clock op =>
      exact ⟨getD_map_of Clock.waiting_empty (fun _ hq => Clock.waiting_run hq op) h.clock,
        h.tweens, htime⟩
  | clearClock =>
      exact ⟨getD_map_of Clock.waiting_empty (fun _ _ => Clock.waiting_empty) h.clock,
        h.tweens, htime⟩
  | changeClock present =>
      refine ⟨?_, h.tweens, htime⟩
      cases present <;> exact Clock.waiting_empty
  | push t => exact ⟨h.clock, TweenQueue.unsigned_push h.tweens he.unsigned, htime⟩
  | step id dt =>
      obtain ⟨time, config, clock, tweens, gallery, stage, host⟩ := w
      cases tweens with
      | none => exact h
      | some q => exact ⟨h.clock, TweenQueue.unsigned_updateAt h.tweens id dt stage, htime⟩
  | replace id t =>
      exact ⟨h.clock, getD_map_of TweenQueue.unsigned_empty
        (fun _ hq => TweenQueue.unsigned_set hq id he.unsigned) h.tweens, htime⟩
  | moveTweens dt =>
      obtain ⟨time, config, clock, tweens, gallery, stage, host⟩ := w
      cases tweens with
      | none => exact h
      | some q => exact ⟨h.clock, TweenQueue.unsigned_rebuilt h.tweens dt, htime⟩
  | clearTweens =>
      exact ⟨h.clock, getD_map_of TweenQueue.unsigned_empty
        (fun q _ => TweenQueue.unsigned_clear q) h.tweens, htime⟩
  | changeTweens present =>
      refine ⟨h.clock, ?_, htime⟩
      cases present <;> exact TweenQueue.unsigned_empty
  | config edit => exact ⟨h.clock, h.tweens, htime⟩
  | surround gallery stage host => exact ⟨h.clock, h.tweens, htime⟩

end World

namespace Game

variable [DecidableEq κ] [Journal (Notice κ Float) σ] {script : Script κ σ Float}

omit [DecidableEq κ] in
/-- A frame begins without unsettling the world: only time goes on. -/
theorem steady_begun {g : Game κ σ Float} (h : g.world.Steady) (dt : Float) :
    (g.begun dt).Steady := by
  obtain ⟨-, hclock, htweens, -⟩ := g.begun_parts dt
  refine ⟨?_, ?_, ?_⟩
  · unfold World.clockOrNew
    rw [hclock]
    exact h.clock
  · unfold World.tweensOrNew
    rw [htweens]
    exact h.tweens
  · rw [g.time_begun dt]
    exact Double.add_ne_negZero h.time _

theorem steady_step (hscript : script.Honest) {g : Game κ σ Float} (h : g.world.Steady)
    {s : Step κ σ Float} (hs : s.Honest) : (g.step script s).world.Steady := by
  cases s with
  | tick dt =>
      have hkeeps : script.Keeps World.Steady :=
        ⟨fun _ n hw => hw.note n, fun o w e he _ hv => hv.edit (hscript o w e he)⟩
      exact hkeeps.tick (fun _ hw => hw.counted) (fun _ hw => hw.moved) (steady_begun h dt)
  | pause =>
      show g.pause.world.Steady
      unfold pause
      split
      · exact h
      · exact h.note _
  | resume =>
      show g.resume.world.Steady
      unfold resume
      split
      · exact h.note _
      · exact h
  | reset =>
      exact ⟨Clock.waiting_empty, TweenQueue.unsigned_clear _, Double.zero_ne_negZero⟩
  | edit e => exact h.edit hs

/-- Every honest run leads to a steady world. -/
theorem steady_run (hscript : script.Honest) (config : Config Float) (host : σ)
    {steps : List (Step κ σ Float)} (hsteps : ∀ s ∈ steps, s.Honest) :
    ((new config host : Game κ σ Float).run script steps).world.Steady :=
  run_induct script (P := fun g => g.world.Steady)
    ⟨Clock.waiting_empty, TweenQueue.unsigned_empty, Double.zero_ne_negZero⟩
    fun _ s hs h => steady_step hscript h (hsteps s hs)

end Game

-- ============================================================ idle frames

namespace Game

/-- A frame of a paused game has the delta zero, at any finite scale. -/
theorem isZero_delta {g : Game κ σ Float} (hpaused : g.paused = true)
    (hscale : g.world.time.timeScale.isFinite = true) (dt : Float) :
    Double.IsZero (g.delta dt) := by
  unfold delta
  rw [hpaused]
  refine Double.isZero_mul (.inl ?_) hscale
  simp only [if_true, ite_self]

variable [Journal (Notice κ Float) σ]

/-- A paused game in which nothing takes notice of a frame. -/
structure Idle (g : Game κ σ Float) : Prop where
  paused : g.paused = true
  steady : g.world.Steady
  attuned : g.world.Attuned
  scale : g.world.time.timeScale.isFinite = true
  config : g.config.timeScale.isFinite = true

namespace Idle

variable {g : Game κ σ Float} (h : Handlers κ σ Float) (dt : Float)

/-- Nothing is due in a frame of an idle game, and nothing finishes: the two passes
come to an end without a handler. -/
theorem world_tick (hg : g.Idle) : (g.tick h dt).world = (g.begun dt).counted.moved := by
  have hsteady := steady_begun hg.steady dt
  have hzero : Double.IsZero (g.begun dt).time.delta := by
    rw [(g.begun_parts dt).2.2.2]
    exact isZero_delta hg.paused hg.scale dt
  have hdue : (g.begun dt).dueCalls = [] := by
    unfold World.dueCalls
    rw [Clock.due_isZero hsteady.clock hzero, List.map_nil]
  have hfinishing := TweenQueue.finishing_isZero hsteady.tweens hzero
  -- the clock enters no handler, so the tweens are those of the beginning
  have hcompletions : (g.begun dt).counted.completions = [] := by
    show ((((g.begun dt).tweensOrNew.finishing (g.begun dt).time.delta)).filterMap _).map _ = []
    rw [hfinishing, List.filterMap_nil, List.map_nil]
  have hannouncements : (g.begun dt).counted.announcements = [] := by
    show ((g.begun dt).tweensOrNew.finishing (g.begun dt).time.delta).map _ = []
    rw [hfinishing, List.map_nil]
  rw [Game.world_tick, World.updateClock_eq, hdue, List.foldl_nil, World.updateTweens_eq,
    hcompletions, hannouncements, List.foldl_nil, List.foldl_nil]

/-- The parts of an idle game after a frame. -/
theorem tick_parts (hg : g.Idle) :
    (g.tick h dt).world.clock = g.world.clock
      ∧ (g.tick h dt).world.tweensOrNew.tasks = g.world.tweensOrNew.live
      ∧ (g.tick h dt).world.tweensOrNew.next = g.world.tweensOrNew.next
      ∧ (g.tick h dt).world.time.elapsed = g.world.time.elapsed
      ∧ (g.tick h dt).world.time.frameCount = g.world.time.frameCount + 1 := by
  obtain ⟨-, hclock, htweens, hdelta⟩ := g.begun_parts dt
  have hzero := isZero_delta hg.paused hg.scale dt
  have hqueue : (g.begun dt).tweensOrNew = g.world.tweensOrNew :=
    congrArg (fun q => q.getD TweenQueue.empty) htweens
  have hrebuilt : (g.tick h dt).world.tweensOrNew = g.world.tweensOrNew.rebuilt (g.delta dt) := by
    rw [hg.world_tick, World.tweensOrNew_moved]
    show (g.begun dt).tweensOrNew.rebuilt (g.begun dt).time.delta = _
    rw [hqueue, hdelta]
  refine ⟨?_, ?_, ?_, ?_, ?_⟩
  · rw [hg.world_tick]
    show (g.begun dt).clock.map (fun q => q.advance (g.begun dt).time.delta) = _
    rw [hclock, hdelta]
    cases hq : g.world.clock with
    | none => rfl
    | some q =>
        have hwaiting := hg.steady.clock
        unfold World.clockOrNew at hwaiting
        rw [hq] at hwaiting
        exact congrArg some (Clock.advance_isZero hwaiting hzero)
  · rw [hrebuilt]
    exact TweenQueue.running_isZero hg.steady.tweens hzero
  · rw [hrebuilt]
    rfl
  · rw [hg.world_tick]
    show (g.begun dt).time.elapsed = _
    rw [g.time_begun dt]
    exact Double.add_isZero hzero hg.steady.time
  · rw [hg.world_tick]
    show (g.begun dt).time.frameCount = _
    rw [g.time_begun dt]

/-- A frame leaves an idle game idle: what its configuration holds may become its
scale, and is finite too. -/
theorem tick (hg : g.Idle) : (g.tick h dt).Idle := by
  have hworld := hg.world_tick h dt
  have hscale := sameScale_begun hg.attuned dt
  have hconfig : (g.tick h dt).config = g.config := by
    obtain ⟨c, hc, -⟩ := hg.attuned
    have hlooked : (g.tick h dt).world.config = some ⟨c.value, false⟩ := by
      rw [hworld]
      exact (g.config_begun dt hc).1
    rw [config_eq hlooked, config_eq hc]
  constructor
  case paused => exact hg.paused
  case steady =>
    rw [hworld]
    exact (steady_begun hg.steady dt).counted.moved
  case attuned =>
    rw [hworld]
    exact (attuned_begun hg.attuned dt).of_kept (.of_eq rfl rfl)
  case scale =>
    rw [hworld]
    exact hscale.finite hg.config
  case config =>
    rw [hconfig]
    exact hg.config

end Idle

end Game

-- ============================================================== the watch

/-- Handlers that write down when they are entered, and with which world. -/
def Handlers.watched (h : Handlers κ σ Float) : Handlers κ (Recorded κ σ Float) Float where
  call c w := (h.call c w.plain).recorded (w.jot (.enter (.call c))).host.record
  finished id w := (h.finished id w.plain).recorded (w.jot (.enter (.announce id))).host.record

namespace Game

variable [Journal (Notice κ Float) σ]

/-- A watch over an idle game has nothing to write down. -/
theorem Idle.watched {g : Game κ σ Float} (hg : g.Idle) (h : Handlers κ σ Float) (dt : Float) :
    g.recorded.tick h.watched dt = (g.tick h dt).recorded := by
  have hrecorded : g.recorded.Idle :=
    ⟨hg.paused, ⟨hg.steady.clock, hg.steady.tweens, hg.steady.time⟩, hg.attuned, hg.scale,
      hg.config⟩
  have hworld : (g.recorded.tick h.watched dt).world = (g.tick h dt).world.recorded [] := by
    rw [hrecorded.world_tick, begun_recorded, hg.world_tick]
    rfl
  exact congrArg (fun w : World κ (Recorded κ σ Float) Float => (⟨w, g.paused⟩ : Game _ _ _)) hworld

-- ============================================================== the result

/-- What a number of frames leaves of a game that is paused. -/
structure Frozen (g g' : Game κ σ Float) (frames : Nat) : Prop where
  paused : g'.paused = true
  /-- The clock is the same, entry for entry. -/
  clock : g'.world.clock = g.world.clock
  /-- Every tween that was not done is queued as it was, and in the same order. -/
  live : g'.world.tweensOrNew.live = g.world.tweensOrNew.live
  /-- No other tween is left after a frame. -/
  rest : 0 < frames → g'.world.tweensOrNew.tasks = g.world.tweensOrNew.live
  next : g'.world.tweensOrNew.next = g.world.tweensOrNew.next
  elapsed : g'.world.time.elapsed = g.world.time.elapsed
  frameCount : g'.world.time.frameCount = g.world.time.frameCount + frames

/-- The game after frames of the given deltas. -/
def frames (h : Handlers κ σ Float) (g : Game κ σ Float) (dts : List Float) : Game κ σ Float :=
  dts.foldl (Game.tick h) g

theorem Idle.frozen {g : Game κ σ Float} (hg : g.Idle) (h : Handlers κ σ Float)
    (dts : List Float) :
    g.recorded.frames h.watched dts = (g.frames h dts).recorded
      ∧ Frozen g (g.frames h dts) dts.length := by
  induction dts generalizing g with
  | nil =>
      exact ⟨rfl, hg.paused, rfl, rfl, fun hpos => absurd hpos (Nat.lt_irrefl 0), rfl, rfl, rfl⟩
  | cons dt rest ih =>
      obtain ⟨hrecord, hfrozen⟩ := ih (hg.tick h dt)
      obtain ⟨hclock, htasks, hnext, helapsed, hframes⟩ := hg.tick_parts h dt
      have hlive : (g.tick h dt).world.tweensOrNew.live = g.world.tweensOrNew.live := by
        unfold TweenQueue.live at htasks ⊢
        rw [htasks, List.filter_filter]
        simp only [Bool.and_self]
      constructor
      · show (g.recorded.tick h.watched dt).frames h.watched rest = _
        rw [hg.watched]
        exact hrecord
      · constructor
        case paused => exact hfrozen.paused
        case clock => exact hfrozen.clock.trans hclock
        case live => exact hfrozen.live.trans hlive
        case rest =>
          intro _
          cases rest with
          | nil => exact htasks
          | cons dt' rest => exact (hfrozen.rest (Nat.succ_pos _)).trans hlive
        case next => exact hfrozen.next.trans hnext
        case elapsed => exact hfrozen.elapsed.trans helapsed
        case frameCount =>
          refine hfrozen.frameCount.trans ?_
          rw [hframes, List.length_cons]
          omega

end Game

section Result

variable [DecidableEq κ] [Journal (Notice κ Float) σ]

/-- However a game came to be paused, if its scale and that of its configuration
are finite then, frames of any deltas do nothing to it but count: the record of
the handlers stays empty, and clock, tweens and time stand still. -/
theorem paused_frames_only_count {script : Script κ σ Float} (hscript : script.Honest)
    (config : Config Float) (host : σ) {steps : List (Game.Step κ σ Float)}
    (hsteps : ∀ s ∈ steps, s.Honest) {g : Game κ σ Float}
    (hg : g = (Game.new config host : Game κ σ Float).run script steps) (hpaused : g.paused = true)
    (hscale : g.world.time.timeScale.isFinite = true)
    (hconfig : g.config.timeScale.isFinite = true) (h : Handlers κ σ Float) (dts : List Float) :
    g.recorded.frames h.watched dts = (g.frames h dts).recorded
      ∧ g.Frozen (g.frames h dts) dts.length := by
  have hidle : g.Idle := by
    refine ⟨hpaused, ?_, ?_, hscale, hconfig⟩
    · rw [hg]
      exact Game.steady_run hscript config host hsteps
    · rw [hg]
      exact Game.attuned_run script config host steps
  exact hidle.frozen h dts

end Result

/-- Handlers that do nothing. -/
private def quiet : Script ℕ (List (Notice ℕ Float)) Float := ⟨fun _ _ => []⟩

/-- A stage with one record. -/
private def onePuppet : Stage Float := { puppets := #[.record [("x", .scalar 0.0)]] }

/-- Schedules a call after a second and a tween over two, and pauses the game half a
second later. -/
private def startAndPause : List (Game.Step ℕ (List (Notice ℕ Float)) Float) :=
  [.edit (.surround none onePuppet []), .edit (.call (.schedule 7 1.0)),
    .edit (.call (.animate ⟨0⟩ 2.0 [("x", .scalar 4.0)] none (some 8))), .tick 0.5, .pause]

/-- A call and a tween that are half a second old when the game is paused are no older
after two long frames, and nobody was called. -/
theorem half_a_second_of_waiting :
    let g := (Game.new (.new "") [] : Game ℕ (List (Notice ℕ Float)) Float).run quiet startAndPause
    let g' := g.frames quiet.handlers [5.0, 7.0]
    (g.paused = true ∧ g.world.time.timeScale.isFinite = true ∧ g.config.timeScale.isFinite = true)
      ∧ (g.recorded.frames quiet.handlers.watched [5.0, 7.0]).world.host.record.length = 0
      ∧ g'.world.clockOrNew.queue = [⟨7, 0.5, 0.0⟩]
      ∧ g'.world.tweensOrNew.live.map (fun p => (p.1, p.2.elapsed)) = [(⟨0⟩, 0.5)]
      ∧ g'.world.time.frameCount = 3 := by
  intro g g'
  have hclock : g.world.clockOrNew.queue = [⟨7, 0.5, 0.0⟩] := by decide +kernel
  have htweens : g.world.tweensOrNew.live.map (fun p => (p.1, p.2.elapsed)) = [(⟨0⟩, 0.5)] := by
    decide +kernel
  have hscale : g.world.time.timeScale.isFinite = true := by decide +kernel
  have hconfig : g.config.timeScale.isFinite = true := by decide +kernel
  have hsteps : ∀ s ∈ startAndPause, s.Honest := by
    simp [startAndPause, Game.Step.Honest, Edit.Honest]
  have hquiet : quiet.Honest := fun _ _ _ he => absurd he List.not_mem_nil
  obtain ⟨hrecord, hfrozen⟩ := paused_frames_only_count hquiet (.new "") [] hsteps (g := g) rfl
    rfl hscale hconfig quiet.handlers [5.0, 7.0]
  refine ⟨⟨rfl, hscale, hconfig⟩, ?_, ?_, ?_, hfrozen.frameCount⟩
  · rw [hrecord]
    rfl
  · unfold World.clockOrNew at hclock ⊢
    rw [hfrozen.clock]
    exact hclock
  · rw [hfrozen.live]
    exact htweens

end Stagecraft
