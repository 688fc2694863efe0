/-
Runs of a game.

Between two frames, and inside a frame from its handlers, whoever holds
the world may change it: through the calls that callbacks are meant to
make, but also on the clock, the tweens and the configuration themselves,
and whatever else is in the world, in any order (`Edit`). A run is a list
of frames, pauses, resumptions, resets and edits from a new game on, with
a script that says what the handlers do.

# What survives a frame

A frame is its beginning, the two passes, and the handlers that the passes
enter. A property of worlds that every edit of the script keeps, every
notice and both passes, and that holds when the frame has begun, holds at
its end (`Script.Keeps.tick`): what a script does is taken one edit at a
time, and no proof looks at the order in which handlers are entered.

Time is the game's alone. An edit leaves it as it finds it, and changes
the configuration only by marking it as changed (`World.Kept`); so a frame
changes time where it begins and nowhere else (`kept_tick`).
-/
import Stagecraft.Proofs.Clock.Edits
import Stagecraft.Proofs.Frame.Tick
import Stagecraft.Proofs.Tweens.Fates

namespace Stagecraft

variable {κ σ α : Type}

-- ============================================================== the edits

/-- A change of a world by whoever holds it. -/
inductive Edit (κ σ α : Type) where
  /-- A call that callbacks are meant to make. -/
  | call (call : QueueCall κ α)
  /-- An operation on the clock itself. -/
  | clock (op : Clock.Op κ α)
  | clearClock
  /-- Puts a new clock in place, or none. -/
  | changeClock (present : Bool)
  /-- Queues a tween, done or not. -/
  | push (t : Tween κ α)
  /-- Steps the tween of a number alone. -/
  | step (id : TweenId) (dt : α)
  /-- Puts a tween in the place of the one with the number. -/
  | replace (id : TweenId) (t : Tween κ α)
  /-- Moves all tweens on without calling anyone. -/
  | moveTweens (dt : α)
  | clearTweens
  /-- Puts a new queue of tweens in place, or none. -/
  | changeTweens (present : Bool)
  | config (edit : Config α → Config α)
  /-- Puts other images, another stage and another host in place. -/
  | surround (gallery : Option Gallery) (stage : Stage α) (host : σ)

/-- The second world has the time of the first, and its configuration unless it
is marked as changed. -/
structure World.Kept (w w' : World κ σ α) : Prop where
  time : w'.time = w.time
  config : ∀ c, w.config = some c → ∃ c', w'.config = some c' ∧ (c' = c ∨ c'.changed = true)

namespace World.Kept

theorem of_eq {w w' : World κ σ α} (htime : w'.time = w.time) (hconfig : w'.config = w.config) :
    w.Kept w' :=
  ⟨htime, fun c hc => ⟨c, hconfig.trans hc, .inl rfl⟩⟩

theorem trans {u v w : World κ σ α} (huv : u.Kept v) (hvw : v.Kept w) : u.Kept w := by
  refine ⟨hvw.time.trans huv.time, fun c hc => ?_⟩
  obtain ⟨c', hc', hfirst⟩ := huv.config c hc
  obtain ⟨c'', hc'', rfl | hmark⟩ := hvw.config c' hc'
  · exact ⟨c'', hc'', hfirst⟩
  · exact ⟨c'', hc'', .inr hmark⟩

end World.Kept

variable [Elementary α] [DecidableEq κ] [Journal (Notice κ α) σ]

/-- The world after an edit. -/
def Edit.apply (w : World κ σ α) : Edit κ σ α → World κ σ α
  | call c => c.apply w
  | clock op => { w with clock := w.clock.map op.run }
  | clearClock => { w with clock := w.clock.map fun _ => .empty }
  | changeClock present => { w with clock := if present then some .empty else none }
  | push t => (w.pushTween t).2
  | step id dt =>
    match w.tweens with
    | none => w
    | some q =>
      { w with
        tweens := some (q.updateAt id dt w.stage).1, stage := (q.updateAt id dt w.stage).2 }
  | replace id t => { w with tweens := w.tweens.map fun q => q.set id t }
  | moveTweens dt =>
    match w.tweens with
    | none => w
    | some q => { w with tweens := some (q.rebuilt dt), stage := q.played dt w.stage }
  | clearTweens => { w with tweens := w.tweens.map .clear }
  | changeTweens present => { w with tweens := if present then some .empty else none }
  | config edit => w.editConfig edit
  | surround gallery stage host => { w with gallery, stage, host }

-- ============================================================ the scripts

/-- What handlers do, edit by edit: each looks at the world that it finds. -/
structure Script (κ σ α : Type) where
  edits : Occasion κ → World κ σ α → List (Edit κ σ α)

namespace Script

/-- The world that a handler leaves. -/
def body (script : Script κ σ α) (o : Occasion κ) (w : World κ σ α) : World κ σ α :=
  (script.edits o w).foldl Edit.apply w

def handlers (script : Script κ σ α) : Handlers κ σ α where
  call c := script.body (.call c)
  finished id := script.body (.announce id)

/-- A property of worlds that outlasts whatever the script does to them. -/
structure Keeps (script : Script κ σ α) (P : World κ σ α → Prop) : Prop where
  note : ∀ w n, P w → P (w.note n)
  edit : ∀ o w, ∀ e ∈ script.edits o w, ∀ v, P v → P (e.apply v)

namespace Keeps

variable {script : Script κ σ α} {P : World κ σ α → Prop}

theorem body (h : script.Keeps P) {w : World κ σ α} (hw : P w) (o : Occasion κ) :
    P (script.body o w) :=
  List.foldlRecOn (script.edits o w) Edit.apply hw fun v hv e he => h.edit o w e he v hv

theorem meet (h : script.Keeps P) {w : World κ σ α} (hw : P w) (o : Occasion κ) :
    P (w.meet script.handlers o) := by
  cases o with
  | call c => exact h.body hw (.call c)
  | announce id => exact h.body (h.note w (.tweenFinished id) hw) (.announce id)

theorem meets (h : script.Keeps P) {w : World κ σ α} (hw : P w) (os : List (Occasion κ)) :
    P (os.foldl (World.meet script.handlers) w) :=
  List.foldlRecOn os _ hw fun _ hv o _ => h.meet hv o

/-- What holds when a frame has begun, and outlasts the passes too, holds when
the frame has ended. -/
theorem tick (h : script.Keeps P) (hcounted : ∀ w, P w → P w.counted)
    (hmoved : ∀ w, P w → P w.moved) {g : Game κ σ α} {dt : α} (hbegun : P (g.begun dt)) :
    P (g.tick script.handlers dt).world := by
  rw [Game.world_tick, World.updateTweens_eq, World.updateClock_eq]
  exact h.meets (h.meets (hmoved _ (h.meets (hcounted _ hbegun) _)) _) _

end Keeps

end Script

-- ======================================================= what no edit does

namespace World.Kept

omit [Elementary α] [DecidableEq κ] in
theorem note (w : World κ σ α) (n : Notice κ α) : w.Kept (w.note n) := of_eq rfl rfl

/-- No edit changes time, and one that changes the configuration marks it. -/
theorem edit (w : World κ σ α) (e : Edit κ σ α) : w.Kept (e.apply w) := by
  cases e with
  | call c =>
      refine of_eq (QueueCall.time_apply w c) ?_
      show (c.apply w).config = w.config
      rw [QueueCall.apply_eq]
  | config edit =>
      refine ⟨rfl, fun c hc => ⟨⟨edit c.value, true⟩, ?_, .inr rfl⟩⟩
      show w.config.map _ = _
      rw [hc]
      rfl
  | step id dt =>
      unfold Edit.apply
      dsimp only
      split <;> exact of_eq rfl rfl
  | moveTweens dt =>
      unfold Edit.apply
      dsimp only
      split <;> exact of_eq rfl rfl
  | clock op => exact of_eq rfl rfl
  | clearClock => exact of_eq rfl rfl
  | changeClock present => exact of_eq rfl rfl
  | push t => exact of_eq rfl rfl
  | replace id t => exact of_eq rfl rfl
  | clearTweens => exact of_eq rfl rfl
  | changeTweens present => exact of_eq rfl rfl
  | surround gallery stage host => exact of_eq rfl rfl

end World.Kept

-- =================================================== how a frame begins

section Begun

omit [DecidableEq κ]

/-- The world takes over the scale of the configuration, unless this is not
marked or the world has the scale already. -/
theorem World.timeScale_applyConfig {w : World κ σ α} {c : Watched (Config α)}
    (hc : w.config = some c) :
    w.applyConfig.time.timeScale
      = if c.changed && w.time.timeScale != c.value.timeScale then c.value.timeScale
        else w.time.timeScale := by
  unfold applyConfig
  rw [hc]
  dsimp only
  split <;> rfl

namespace Game

/-- A frame begins by letting its delta pass. -/
theorem time_begun (g : Game κ σ α) (dt : α) :
    (g.begun dt).time
      = ⟨g.world.time.elapsed + g.delta dt, g.delta dt, (g.begun dt).time.timeScale,
          g.world.time.frameCount + 1⟩ := by
  obtain ⟨-, -, -, -, htime⟩ :=
    (g.world.updateTime (if g.paused then 0.0 else dt)).applyConfig_parts
  rw [World.updateTime_eq] at htime
  unfold begun
  rw [World.updateTime_eq]
  exact htime

/-- Then the world looks at the configuration: it takes over the scale of one
that is marked, if the scale is another. -/
theorem config_begun (g : Game κ σ α) (dt : α) {c : Watched (Config α)}
    (hc : g.world.config = some c) :
    (g.begun dt).config = some ⟨c.value, false⟩
      ∧ (g.begun dt).time.timeScale
        = if c.changed && g.world.time.timeScale != c.value.timeScale then c.value.timeScale
          else g.world.time.timeScale := by
  obtain ⟨-, -, -, hconfig, -⟩ :=
    (g.world.updateTime (if g.paused then 0.0 else dt)).applyConfig_parts
  have hfound : (g.world.updateTime (if g.paused then 0.0 else dt)).config = some c := by
    rw [World.updateTime_eq]
    exact hc
  constructor
  · refine hconfig.trans ?_
    rw [hfound]
    rfl
  · refine (World.timeScale_applyConfig hfound).trans ?_
    rw [World.updateTime_eq]

end Game

end Begun

/-- A frame changes time where it begins and nowhere else, and then changes the
configuration only by marking it. -/
theorem Game.kept_tick (script : Script κ σ α) (g : Game κ σ α) (dt : α) :
    (g.begun dt).Kept (g.tick script.handlers dt).world := by
  have hkeeps : script.Keeps (g.begun dt).Kept :=
    ⟨fun w n hw => hw.trans (.note w n), fun _ _ e _ v hv => hv.trans (.edit v e)⟩
  exact hkeeps.tick (fun w hw => hw.trans (.of_eq rfl rfl)) (fun w hw => hw.trans (.of_eq rfl rfl))
    (.of_eq rfl rfl)

-- =============================================================== the runs

namespace Game

/-- A step of a run. -/
inductive Step (κ σ α : Type) where
  | tick (dt : α)
  | pause
  | resume
  | reset
  | edit (e : Edit κ σ α)

/-- Whether a step is a frame. -/
def Step.isTick : Step κ σ α → Bool
  | tick _ => true
  | _ => false

omit [Elementary α] [DecidableEq κ] [Journal (Notice κ α) σ] in
theorem Step.of_isTick {s : Step κ σ α} (h : s.isTick = true) : ∃ dt, s = .tick dt := by
  cases s with
  | tick dt => exact ⟨dt, rfl⟩
  | pause | resume | reset | edit e => exact absurd h Bool.false_ne_true

variable (script : Script κ σ α)

/-- The game after a step. -/
def step (g : Game κ σ α) : Step κ σ α → Game κ σ α
  | .tick dt => g.tick script.handlers dt
  | .pause => g.pause
  | .resume => g.resume
  | .reset => g.reset
  | .edit e => { g with world := e.apply g.world }

/-- The game after a list of steps. -/
def run (g : Game κ σ α) (steps : List (Step κ σ α)) : Game κ σ α := steps.foldl (step script) g

theorem run_cons (g : Game κ σ α) (s : Step κ σ α) (steps : List (Step κ σ α)) :
    g.run script (s :: steps) = (g.step script s).run script steps := rfl

theorem run_append (g : Game κ σ α) (pre post : List (Step κ σ α)) :
    g.run script (pre ++ post) = (g.run script pre).run script post :=
  List.foldl_append

/-- What holds of a game and outlasts each step holds after the run. -/
theorem run_induct {P : Game κ σ α → Prop} {g : Game κ σ α} {steps : List (Step κ σ α)}
    (hg : P g) (hstep : ∀ g, ∀ s ∈ steps, P g → P (g.step script s)) : P (g.run script steps) :=
  List.foldlRecOn steps (step script) hg fun g hg s hs => hstep g s hs hg

-- ========================================================== what time does

/-- A frame keeps the time with which it begins. -/
theorem time_tick (g : Game κ σ α) (dt : α) :
    (g.step script (.tick dt)).world.time = (g.begun dt).time := (kept_tick script g dt).time

/-- A step that is no frame and no reset leaves time alone. -/
theorem time_step {s : Step κ σ α} (htick : s.isTick = false) (hreset : s ≠ .reset)
    (g : Game κ σ α) : (g.step script s).world.time = g.world.time := by
  cases s with
  | tick dt => exact absurd htick.symm Bool.false_ne_true
  | pause =>
      show g.pause.world.time = _
      unfold pause
      split <;> rfl
  | resume =>
      show g.resume.world.time = _
      unfold resume
      split <;> rfl
  | reset => exact absurd rfl hreset
  | edit e => exact (World.Kept.edit g.world e).time

/-- Only a frame changes the scale: a reset keeps it. -/
theorem timeScale_step {s : Step κ σ α} (htick : s.isTick = false) (g : Game κ σ α) :
    (g.step script s).world.time.timeScale = g.world.time.timeScale := by
  by_cases hreset : s = .reset
  · subst hreset
    rfl
  · rw [time_step script htick hreset]

/-- Between frames the scale stays. -/
theorem timeScale_run {steps : List (Step κ σ α)} (hsteps : ∀ s ∈ steps, s.isTick = false)
    (g : Game κ σ α) : (g.run script steps).world.time.timeScale = g.world.time.timeScale :=
  run_induct script (P := fun g' => g'.world.time.timeScale = g.world.time.timeScale) rfl
    fun g' s hs h => (timeScale_step script (hsteps s hs) g').trans h

/-- The deltas of the frames of a run, in order. -/
def deltas (g : Game κ σ α) : List (Step κ σ α) → List α
  | [] => []
  | s :: rest =>
    if s.isTick then (g.step script s).world.time.delta :: deltas (g.step script s) rest
    else deltas (g.step script s) rest

theorem deltas_cons (g : Game κ σ α) (s : Step κ σ α) (rest : List (Step κ σ α)) :
    g.deltas script (s :: rest)
      = if s.isTick then (g.step script s).world.time.delta :: (g.step script s).deltas script rest
        else (g.step script s).deltas script rest := rfl

/-- Without a reset, elapsed seconds add up the deltas, and frames are counted. -/
theorem time_run {steps : List (Step κ σ α)} (hsteps : .reset ∉ steps) (g : Game κ σ α) :
    (g.run script steps).world.time.elapsed
        = (g.deltas script steps).foldl (· + ·) g.world.time.elapsed
      ∧ (g.run script steps).world.time.frameCount
        = g.world.time.frameCount + steps.countP Step.isTick := by
  -- from any game on: the sum goes on from what the first step leaves
  induction steps generalizing g with
  | nil => exact ⟨rfl, rfl⟩
  | cons s rest ih =>
      rw [List.mem_cons, not_or] at hsteps
      obtain ⟨helapsed, hframes⟩ := ih hsteps.2 (g.step script s)
      rw [run_cons, deltas_cons, helapsed, hframes]
      cases htick : s.isTick with
      | false =>
          rw [time_step script htick (Ne.symm hsteps.1)]
          rw [List.countP_cons_of_neg (by rw [htick]; exact Bool.false_ne_true)]
          exact ⟨rfl, rfl⟩
      | true =>
          obtain ⟨dt, rfl⟩ := Step.of_isTick htick
          rw [List.countP_cons_of_pos htick, time_tick, g.time_begun dt]
          exact ⟨rfl, by dsimp only; omega⟩

end Game

end Stagecraft
