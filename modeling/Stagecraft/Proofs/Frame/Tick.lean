/-
One tick, and how the two queues meet in it.

A tick begins a frame, looks at the configuration, and passes over the
clock and then over the tweens. Neither of the first two steps touches a
queue or the stage (`Game.begun_parts`), so the record of a tick is the
record of the two passes, one after the other.

# The asymmetry

The passes differ in what their handlers can still reach. A clock
callback finds the tweens before they are moved: a tween that it queues
takes its first step in the same tick, and one that it cancels takes
none. A completion callback finds both queues rebuilt: a tween that it
queues waits for the next tick, and so does a call that any handler
schedules. All of this follows from where the chain of a pass begins: the
chain of the clock pass at the counted clock, and the chain of the tween
pass at the moved tweens.
-/
import Stagecraft.Proofs.Frame.ClockPass
import Stagecraft.Proofs.Frame.TweenPass

namespace Stagecraft

variable {κ σ α : Type} [Elementary α]

namespace Game

-- ========================================================= the beginning

/-- The seconds that the queues see in a tick: none while the game is paused or
if the delta is no number above zero, and else the delta at the scale that the
world has when the tick begins. -/
def delta (g : Game κ σ α) (dt : α) : α :=
  let dt := if g.paused then 0.0 else dt
  (if (0.0 : α) ≤ dt then dt else 0.0) * g.world.time.timeScale

variable [Journal (Notice κ α) σ]

/-- The world of a tick when the passes begin. -/
def begun (g : Game κ σ α) (dt : α) : World κ σ α :=
  (g.world.updateTime (if g.paused then 0.0 else dt)).applyConfig

end Game

namespace World

variable [Journal (Notice κ α) σ]

/-- A frame begins by letting its delta pass, if this is a number that is not
negative, at the scale that the world has. -/
theorem updateTime_eq (w : World κ σ α) (dt : α) :
    w.updateTime dt
      = { w with
          time :=
            { w.time with
              elapsed := w.time.elapsed + (if (0.0 : α) ≤ dt then dt else 0.0) * w.time.timeScale
              delta := (if (0.0 : α) ≤ dt then dt else 0.0) * w.time.timeScale
              frameCount := w.time.frameCount + 1 }
          host :=
            if (0.0 : α) ≤ dt then w.host
            else Journal.note (.deltaIgnored dt : Notice κ α) w.host } := by
  unfold updateTime
  by_cases hvalid : (0.0 : α) ≤ dt
  · simp only [hvalid, decide_true, if_true]
  · simp only [hvalid, decide_false, Bool.false_eq_true, if_false]
    rfl

theorem updateTime_parts (w : World κ σ α) (dt : α) :
    (w.updateTime dt).stage = w.stage ∧ (w.updateTime dt).clock = w.clock
      ∧ (w.updateTime dt).tweens = w.tweens
      ∧ (w.updateTime dt).time.delta = (if (0.0 : α) ≤ dt then dt else 0.0) * w.time.timeScale := by
  rw [updateTime_eq]
  exact ⟨rfl, rfl, rfl, rfl⟩

/-- A look at the configuration takes its mark away and may change the scale. -/
theorem applyConfig_parts (w : World κ σ α) :
    w.applyConfig.stage = w.stage ∧ w.applyConfig.clock = w.clock
      ∧ w.applyConfig.tweens = w.tweens
      ∧ w.applyConfig.config = (w.config.map fun c => ⟨c.value, false⟩)
      ∧ w.applyConfig.time = { w.time with timeScale := w.applyConfig.time.timeScale } := by
  unfold applyConfig
  cases hc : w.config with
  | none => exact ⟨rfl, rfl, rfl, hc, rfl⟩
  | some c =>
      dsimp only
      split <;> exact ⟨rfl, rfl, rfl, rfl, rfl⟩

theorem updateTime_recorded (w : World κ σ α) (record : List (Deed κ σ α)) (dt : α) :
    (w.recorded record).updateTime dt = (w.updateTime dt).recorded record := by
  rw [updateTime_eq, updateTime_eq]
  split <;> rfl

theorem applyConfig_recorded (w : World κ σ α) (record : List (Deed κ σ α)) :
    (w.recorded record).applyConfig = w.applyConfig.recorded record := by
  obtain ⟨time, config, clock, tweens, gallery, stage, host⟩ := w
  cases config with
  | none => rfl
  | some c =>
      unfold applyConfig
      dsimp only [recorded, withHost]
      by_cases hscale : (c.changed && time.timeScale != c.value.timeScale) = true
      · simp only [hscale, if_true]
        rfl
      · simp only [hscale, Bool.false_eq_true, if_false]

end World

namespace Game

variable [Journal (Notice κ α) σ]

/-- The beginning of a frame touches neither the stage nor a queue. -/
theorem begun_parts (g : Game κ σ α) (dt : α) :
    (g.begun dt).stage = g.world.stage ∧ (g.begun dt).clock = g.world.clock
      ∧ (g.begun dt).tweens = g.world.tweens ∧ (g.begun dt).time.delta = g.delta dt := by
  obtain ⟨hstage, hclock, htweens, -, htime⟩ :=
    (g.world.updateTime (if g.paused then 0.0 else dt)).applyConfig_parts
  obtain ⟨hstage', hclock', htweens', hdelta'⟩ :=
    g.world.updateTime_parts (if g.paused then 0.0 else dt)
  exact ⟨hstage.trans hstage', hclock.trans hclock', htweens.trans htweens',
    (congrArg WorldTime.delta htime).trans hdelta'⟩

/-- A game with an empty record. -/
def recorded (g : Game κ σ α) : Game κ (Recorded κ σ α) α := ⟨g.world.recorded [], g.paused⟩

theorem world_tick (h : Handlers κ σ α) (g : Game κ σ α) (dt : α) :
    (g.tick h dt).world = ((g.begun dt).updateClock h).updateTweens h := rfl

theorem begun_recorded (g : Game κ σ α) (dt : α) :
    g.recorded.begun dt = (g.begun dt).recorded [] := by
  unfold begun recorded
  dsimp only
  rw [World.updateTime_recorded, World.applyConfig_recorded]

-- ============================================================= the record

variable [DecidableEq κ] (b : Behaviour κ σ α) (g : Game κ σ α) (dt : α)

/-- The world between the two passes of a tick. -/
def between : World κ σ α := (g.begun dt).updateClock b.handlers

/-- What the callbacks of the clock do in a tick. -/
def clockDeeds : List (Deed κ σ α) := b.deeds (g.begun dt).counted (g.begun dt).dueCalls

/-- The record of a tick is that of its passes, one after the other. -/
theorem tick_recorded :
    (g.recorded.tick b.recorded dt).world
      = (g.tick b.handlers dt).world.recorded
          (g.clockDeeds b dt ++ (g.between b dt).tweenDeeds b) := by
  rw [world_tick, world_tick, begun_recorded, World.updateClock_recorded, List.nil_append,
    World.updateTweens_recorded]
  rfl

theorem chain_clockDeeds : Chain (g.begun dt).counted (g.clockDeeds b dt) (g.between b dt) :=
  World.chain_updateClock b (g.begun dt)

theorem chain_tweenDeeds :
    Chain (g.between b dt).moved ((g.between b dt).tweenDeeds b) (g.tick b.handlers dt).world :=
  World.chain_updateTweens b (g.between b dt)

-- =========================================================== the two queues

omit [DecidableEq κ] in
/-- The first chain of a tick begins at the stage and the tweens of the game,
and at its clock counted down. -/
theorem counted_begun :
    (g.begun dt).counted.stage = g.world.stage
      ∧ (g.begun dt).counted.tweensOrNew = g.world.tweensOrNew
      ∧ (g.begun dt).counted.time.delta = g.delta dt := by
  obtain ⟨hstage, -, htweens, hdelta⟩ := g.begun_parts dt
  exact ⟨hstage, congrArg (fun q => q.getD TweenQueue.empty) htweens, hdelta⟩

/-- Between the passes the stage is as the game has it, and the tweens are as
the callbacks of the clock left them. -/
theorem between_parts :
    (g.between b dt).stage = g.world.stage ∧ (g.between b dt).time.delta = g.delta dt
      ∧ (g.between b dt).tweensOrNew
        = (g.clockDeeds b dt).foldl Deed.editTweens g.world.tweensOrNew := by
  have hchain := g.chain_clockDeeds b dt
  obtain ⟨hstage, htweens, hdelta⟩ := g.counted_begun dt
  obtain ⟨htime, hstage', -⟩ := hchain.frame
  refine ⟨hstage'.trans hstage, ?_, ?_⟩
  · rw [htime]
    exact hdelta
  · rw [hchain.tweens, htweens]

/-- The clock after a tick is the one that the game had, counted down, with the
calls of all handlers of the tick in order. -/
theorem clockOrNew_tick :
    (g.tick b.handlers dt).world.clockOrNew
      = (queueCalls (g.clockDeeds b dt ++ (g.between b dt).tweenDeeds b)).foldl
          (fun q call => call.editClock q) (g.begun dt).counted.clockOrNew := by
  rw [(g.chain_tweenDeeds b dt).clock, queueCalls_append, List.foldl_append,
    ← (g.chain_clockDeeds b dt).clock]
  rfl

theorem numbered_between (hg : g.world.tweensOrNew.Numbered) :
    (g.between b dt).tweensOrNew.Numbered := by
  refine (g.chain_clockDeeds b dt).numbered ?_
  rw [(g.counted_begun dt).2.1]
  exact hg

/-- A tick keeps the numbering of the tweens. -/
theorem numbered_tick (hg : g.world.tweensOrNew.Numbered) :
    (g.tick b.handlers dt).world.tweensOrNew.Numbered := by
  refine (g.chain_tweenDeeds b dt).numbered ?_
  rw [World.tweensOrNew_moved]
  exact (g.numbered_between b dt hg).of_sublist (TweenQueue.ids_rebuilt_sublist _ _) rfl

-- ======================================================= the clock's callbacks

section ClockDeeds

variable {b g dt} {d : Deed κ σ α} {pre post : List (Deed κ σ α)} {p : Task κ α} {id : TweenId}

/-- What is called from the clock was due before the tick. -/
theorem occasions_clockDeeds :
    occasions (g.clockDeeds b dt) = (g.world.clockOrNew.due (g.delta dt)).map .call := by
  obtain ⟨-, hclock, -, hdelta⟩ := g.begun_parts dt
  refine (occasions_deeds b (g.begun dt).counted (g.begun dt).dueCalls).trans ?_
  unfold World.dueCalls World.clockOrNew
  rw [hclock, hdelta]

/-- A callback of the clock finds no tween stepped. -/
theorem found_clockDeeds (h : g.clockDeeds b dt = pre ++ d :: post) :
    d.world.stage = g.world.stage
      ∧ d.world.tweensOrNew = pre.foldl Deed.editTweens g.world.tweensOrNew := by
  have hchain := g.chain_clockDeeds b dt
  rw [h] at hchain
  obtain ⟨hstage, hqueue, -⟩ := g.counted_begun dt
  obtain ⟨hpre, -⟩ := hchain.split
  refine ⟨hpre.frame.2.1.trans hstage, ?_⟩
  rw [hpre.tweens, hqueue]

/-- What a callback of the clock queues is live when the tweens are moved. -/
theorem live_of_clockDeeds (h : g.clockDeeds b dt = pre ++ d :: post) (hp : d.queued? = some p)
    (hkeep : ∀ later ∈ post, later.cancels? ≠ some p.1) :
    p ∈ (g.between b dt).tweensOrNew.live := by
  have hchain := g.chain_clockDeeds b dt
  rw [h] at hchain
  refine List.mem_filter.2 ⟨hchain.queued_stays hp hkeep, ?_⟩
  unfold Task.isLive
  rw [(Deed.queued_after hp).2.1]
  rfl

/-- What a callback of the clock cancels is gone when the tweens are moved. -/
theorem gone_of_clockDeeds (hg : g.world.tweensOrNew.Numbered)
    (h : g.clockDeeds b dt = pre ++ d :: post) (hid : d.cancels? = some id)
    (hcontains : d.world.tweensOrNew.contains id = true) :
    id ∉ (g.between b dt).tweensOrNew.ids := by
  have hchain := g.chain_clockDeeds b dt
  rw [h] at hchain
  have hcounted : (g.begun dt).counted.tweensOrNew.Numbered := by
    rw [(g.counted_begun dt).2.1]
    exact hg
  have hfound := hchain.split.1.numbered hcounted
  refine hchain.cancelled_gone hcounted hid ?_
  exact hfound.below id (TweenQueue.contains_iff.1 hcontains)

end ClockDeeds

end Game

-- ============================================================= the result

variable [DecidableEq κ] [Journal (Notice κ α) σ]

/-- How clock and tweens interact in a tick of a game, told by the deeds of the
clock's callbacks, of completion callbacks and of the handlers of announcements.
`q` is the queue of tweens that the tick moves. Two clauses speak of the tweens
of a number, for queues that are numbered as all operations keep them. -/
structure TickOrder (b : Behaviour κ σ α) (g : Game κ σ α) (dt : α) (q : TweenQueue κ α)
    (clocked called announced : List (Deed κ σ α)) : Prop where
  /-- All clock callbacks come before all completion callbacks, and these before
  all announcements. -/
  record : (g.recorded.tick b.recorded dt).world.host.record = clocked ++ (called ++ announced)
  /-- Without the recorder the tick is the same. -/
  plain : (g.recorded.tick b.recorded dt).world.plain = (g.tick b.handlers dt).world
  /-- The calls on the queues are those of the handlers that are entered. -/
  made : queueCalls (clocked ++ (called ++ announced))
    = (clocked ++ (called ++ announced)).flatMap b.callsAt
  /-- Only what was due in the clock before the tick is called from the clock. -/
  due : occasions clocked = (g.world.clockOrNew.due (g.delta dt)).map .call
  /-- No tween is stepped before a clock callback. -/
  unmoved : ∀ pre d post, clocked = pre ++ d :: post →
    d.world.stage = g.world.stage
      ∧ d.world.tweensOrNew = pre.foldl Deed.editTweens g.world.tweensOrNew
  /-- The queue that is moved is what the clock callbacks made of the game's. -/
  queue : q = clocked.foldl Deed.editTweens g.world.tweensOrNew
  /-- All its tweens are stepped by the full delta before a completion callback,
  and none after that. -/
  moved : ∀ pre d post, called ++ announced = pre ++ d :: post →
    d.world.stage = q.played (g.delta dt) g.world.stage
      ∧ d.world.tweensOrNew = pre.foldl Deed.editTweens (q.rebuilt (g.delta dt))
  left : (g.tick b.handlers dt).world.stage = q.played (g.delta dt) g.world.stage
    ∧ (g.tick b.handlers dt).world.tweensOrNew
      = (called ++ announced).foldl Deed.editTweens (q.rebuilt (g.delta dt))
  completed : occasions called
    = ((q.finishing (g.delta dt)).filterMap fun p => p.2.onComplete).map .call
  finished : occasions announced = (q.finishing (g.delta dt)).map fun p => .announce p.1
  /-- A tween that a clock callback queues, and that no later one cancels, takes
  its first step in this tick, of the full delta. -/
  first_step : ∀ pre d post p, clocked = pre ++ d :: post → d.queued? = some p →
    (∀ later ∈ post, later.cancels? ≠ some p.1) →
    p ∈ q.live
      ∧ (p.moved (g.delta dt) ∈ q.finishing (g.delta dt)
        ∨ p.moved (g.delta dt) ∈ (q.rebuilt (g.delta dt)).tasks)
  /-- A tween that a clock callback cancels is neither stepped nor finished. -/
  cancelled : g.world.tweensOrNew.Numbered → ∀ pre d post id, clocked = pre ++ d :: post →
    d.cancels? = some id → d.world.tweensOrNew.contains id = true →
    id ∉ q.ids ∧ id ∉ (q.finishing (g.delta dt)).map Prod.fst
  /-- A tween that a later handler queues is not stepped: no task of the moved
  queue has its number, and at the end that stands for the tween as it was
  queued, or for none if a later deed cancelled it. -/
  waiting : g.world.tweensOrNew.Numbered → ∀ pre d post p,
    called ++ announced = pre ++ d :: post → d.queued? = some p →
    p.1 ∉ q.ids
      ∧ (∀ t, (p.1, t) ∈ (g.tick b.handlers dt).world.tweensOrNew.tasks → t = p.2)
      ∧ ((∀ later ∈ post, later.cancels? ≠ some p.1) →
        p ∈ (g.tick b.handlers dt).world.tweensOrNew.tasks)
  /-- A call that any handler schedules waits with its full delay at the end,
  unless a later deed drops it. -/
  scheduled : ∀ pre d post e, clocked ++ (called ++ announced) = pre ++ d :: post →
    d.scheduled? = some e → (∀ later ∈ post, later.drops e.callback = false) →
    e ∈ (g.tick b.handlers dt).world.clockOrNew.queue
  /-- The numbering of the tweens survives the tick. -/
  numbered : g.world.tweensOrNew.Numbered → (g.tick b.handlers dt).world.tweensOrNew.Numbered

/-- Every tick of every game, whatever the handlers do, lets clock and tweens
interact in the same way. -/
theorem tick_runs_clock_before_tweens (b : Behaviour κ σ α) (g : Game κ σ α) (dt : α) :
    ∃ q clocked called announced, TickOrder b g dt q clocked called announced := by
  have hrecorded := g.tick_recorded b dt
  have htween := g.chain_tweenDeeds b dt
  obtain ⟨hstage, hdelta, hqueue⟩ := g.between_parts b dt
  refine ⟨(g.between b dt).tweensOrNew, g.clockDeeds b dt,
    b.deeds (g.between b dt).moved (g.between b dt).completions,
    b.deeds ((g.between b dt).completed b) (g.between b dt).announcements, ?_⟩
  constructor
  case record =>
    rw [hrecorded]
    rfl
  case plain =>
    rw [hrecorded]
    rfl
  case made =>
    have hclocked : queueCalls (g.clockDeeds b dt) = (g.clockDeeds b dt).flatMap b.callsAt :=
      queueCalls_deeds b (g.begun dt).counted (g.begun dt).dueCalls
    have hafter := World.queueCalls_tweenDeeds b (g.between b dt)
    unfold World.tweenDeeds at hafter
    rw [queueCalls_append, List.flatMap_append, hclocked, hafter]
  case due => exact Game.occasions_clockDeeds
  case unmoved => exact fun pre d post hsplit => Game.found_clockDeeds hsplit
  case queue => exact hqueue
  case moved =>
    intro pre d post hsplit
    rw [← hdelta, ← hstage]
    exact World.found_tweenDeeds b (g.between b dt) hsplit
  case left =>
    rw [← hdelta, ← hstage]
    refine ⟨htween.frame.2.1, htween.tweens.trans ?_⟩
    rw [World.tweensOrNew_moved]
    rfl
  case completed =>
    rw [← hdelta]
    exact occasions_deeds b (g.between b dt).moved (g.between b dt).completions
  case finished =>
    rw [← hdelta]
    exact occasions_deeds b ((g.between b dt).completed b) (g.between b dt).announcements
  case first_step =>
    intro pre d post p hsplit hp hkeep
    have hlive := Game.live_of_clockDeeds hsplit hp hkeep
    exact ⟨hlive, TweenQueue.moved_mem_of_live hlive (g.delta dt)⟩
  case cancelled =>
    intro hg pre d post id hsplit hid hcontains
    have hgone := Game.gone_of_clockDeeds hg hsplit hid hcontains
    refine ⟨hgone, fun hfinishing => hgone ?_⟩
    exact TweenQueue.ids_finishing_subset _ _ hfinishing
  case waiting =>
    intro hg pre d post p hsplit hp
    have hbetween := g.numbered_between b dt hg
    obtain ⟨hfresh, halone⟩ := World.fresh_tweenDeeds b (g.between b dt) hbetween hsplit hp
    refine ⟨hfresh, halone, fun hkeep => ?_⟩
    unfold World.tweenDeeds at htween
    rw [hsplit] at htween
    exact htween.queued_stays hp hkeep
  case scheduled =>
    intro pre d post e hsplit he hkeep
    rw [g.clockOrNew_tick b dt]
    unfold World.tweenDeeds
    rw [hsplit]
    exact mem_foldl_of_scheduled? he hkeep _
  case numbered => exact g.numbered_tick b dt

end Stagecraft
