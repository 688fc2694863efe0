/-
The time of a game along a run.

The scale of a frame is one frame behind the configuration: a frame lets
its delta pass at the scale that the world has, and only then looks at the
configuration for the scale of the next frame. Between the two looks the
configuration may be edited any number of times, before the frame or by
its handlers, and what counts is what stands there when it is looked at.

# The mark

The world looks away from a configuration that is not marked as changed.
No edit is lost by that, since between two looks a world is `Attuned`: its
configuration is marked, or the world has its scale already, as the last
look left it. Equality of doubles does not tell the two zeros apart, so a
world may keep one zero where the configuration has the other
(`SameScale`).

# Going forward

Elapsed seconds add up the deltas from the start or the last reset. While
the scales that the configuration holds are positive and finite, so is the
scale of every frame. Then no delta is negative, whatever numbers the
frames are given, and rounding does not make a sum smaller than what a
delta is added to, so time does not go back.
-/
import Stagecraft.Proofs.Doubles.Arithmetic
import Stagecraft.Proofs.Game.Runs

namespace Stagecraft

-- ============================================================= the scales

/-- The scales are the same, or both of them zeros. -/
def SameScale (s c : Float) : Prop := s = c ∨ (Double.IsZero s ∧ Double.IsZero c)

/-- A scale at which time goes forward. -/
def Forward (s : Float) : Prop := 0.0 < s ∧ s.isFinite = true

instance (s : Float) : Decidable (Forward s) := inferInstanceAs (Decidable (_ ∧ _))

theorem SameScale.forward {s c : Float} (h : SameScale s c) (hc : Forward c) : Forward s := by
  rcases h with rfl | ⟨-, hzero⟩
  · exact hc
  · exact absurd hzero (Double.not_isZero_of_not_le (Double.not_le_zero_of_pos hc.1))

theorem SameScale.finite {s c : Float} (h : SameScale s c) (hc : c.isFinite = true) :
    s.isFinite = true := by
  rcases h with rfl | ⟨rfl | rfl, -⟩
  · exact hc
  · rfl
  · rfl

variable {κ σ : Type}

namespace World

/-- The configuration is marked as changed, or the world has its scale. -/
def Attuned (w : World κ σ Float) : Prop :=
  ∃ c, w.config = some c
    ∧ (c.changed = true ∨ SameScale w.time.timeScale c.value.timeScale)

theorem Attuned.of_kept {w w' : World κ σ Float} (h : w.Attuned) (hkept : w.Kept w') :
    w'.Attuned := by
  obtain ⟨c, hc, hscale⟩ := h
  obtain ⟨c', hc', rfl | hmark⟩ := hkept.config c hc
  · refine ⟨c', hc', ?_⟩
    rw [hkept.time]
    exact hscale
  · exact ⟨c', hc', .inl hmark⟩

end World

namespace Game

/-- A game that has a configuration answers its values. -/
theorem config_eq {g : Game κ σ Float} {c : Watched (Config Float)}
    (hc : g.world.config = some c) : g.config = c.value := by
  unfold config
  rw [hc]

variable [Journal (Notice κ Float) σ]

/-- A frame looks at the configuration as it is when the frame begins. -/
theorem sameScale_begun {g : Game κ σ Float} (h : g.world.Attuned) (dt : Float) :
    SameScale (g.begun dt).time.timeScale g.config.timeScale := by
  obtain ⟨c, hc, hscale⟩ := h
  rw [config_eq hc, (g.config_begun dt hc).2]
  split
  · exact .inl rfl
  · next hsame =>
    rcases hscale with hmark | hscale
    · -- the world compared the scales and found no difference
      rw [hmark, Bool.true_and, bne, Bool.not_eq_true', Bool.not_eq_false] at hsame
      exact Double.eq_or_isZero_of_beq hsame
    · exact hscale

theorem attuned_begun {g : Game κ σ Float} (h : g.world.Attuned) (dt : Float) :
    (g.begun dt).Attuned := by
  have hscale := sameScale_begun h dt
  obtain ⟨c, hc, -⟩ := h
  rw [config_eq hc] at hscale
  exact ⟨⟨c.value, false⟩, (g.config_begun dt hc).1, .inr hscale⟩

variable [DecidableEq κ] (script : Script κ σ Float)

theorem attuned_step {g : Game κ σ Float} (h : g.world.Attuned) (s : Step κ σ Float) :
    (g.step script s).world.Attuned := by
  cases s with
  | tick dt => exact (attuned_begun h dt).of_kept (kept_tick script g dt)
  | pause =>
      show g.pause.world.Attuned
      unfold pause
      split
      · exact h
      · exact h.of_kept (.note _ _)
  | resume =>
      show g.resume.world.Attuned
      unfold resume
      split
      · exact h.of_kept (.note _ _)
      · exact h
  | reset => exact h
  | edit e => exact h.of_kept (.edit g.world e)

/-- Along a run no edit of the configuration is overlooked. -/
theorem attuned_run (config : Config Float) (host : σ) (steps : List (Step κ σ Float)) :
    ((new config host : Game κ σ Float).run script steps).world.Attuned :=
  run_induct script (P := fun g => g.world.Attuned) ⟨⟨config, true⟩, rfl, .inl rfl⟩
    fun _ s _ h => attuned_step script h s

/-- The scale after a frame is that of the configuration with which the frame
begins. -/
theorem sameScale_tick {g : Game κ σ Float} (h : g.world.Attuned) (dt : Float) :
    SameScale (g.step script (.tick dt)).world.time.timeScale g.config.timeScale := by
  rw [time_tick]
  exact sameScale_begun h dt

end Game

-- =========================================================== going forward

/-- What is kept of time along a run while the scales of the configuration are
forward. -/
structure WorldTime.Advancing (t : WorldTime Float) : Prop where
  scale : Forward t.timeScale
  elapsed : (0.0 : Float) ≤ t.elapsed
  delta : (0.0 : Float) ≤ t.delta

theorem WorldTime.advancing_start {s : Float} (h : Forward s) : (start s).Advancing :=
  ⟨h, Double.zero_le_zero, Double.zero_le_zero⟩

namespace Game

/-- At a forward scale no frame has a negative delta. -/
theorem delta_nonneg {g : Game κ σ Float} (h : Forward g.world.time.timeScale) (dt : Float) :
    (0.0 : Float) ≤ g.delta dt := by
  have hclamped : ∀ x : Float, (0.0 : Float) ≤ if (0.0 : Float) ≤ x then x else 0.0 := by
    intro x
    split
    · next hx => exact hx
    · exact Double.zero_le_zero
  exact Double.mul_nonneg (hclamped _) h.1 h.2

variable [Journal (Notice κ Float) σ] [DecidableEq κ] {script : Script κ σ Float}

/-- A step that is no reset does not take time back, and no step does what would
let a later one do so. -/
theorem advancing_step {g : Game κ σ Float} (h : g.world.time.Advancing)
    (hattuned : g.world.Attuned) (hconfig : Forward g.config.timeScale) (s : Step κ σ Float) :
    (g.step script s).world.time.Advancing
      ∧ (s ≠ .reset → g.world.time.elapsed ≤ (g.step script s).world.time.elapsed) := by
  cases htick : s.isTick with
  | true =>
      obtain ⟨dt, rfl⟩ := Step.of_isTick htick
      have hdelta := delta_nonneg h.scale dt
      have hle := Double.le_add_of_nonneg h.elapsed hdelta
      have hscale := (sameScale_begun hattuned dt).forward hconfig
      rw [time_tick, g.time_begun dt]
      exact ⟨⟨hscale, Double.nonneg_of_le h.elapsed hle, hdelta⟩, fun _ => hle⟩
  | false =>
      by_cases hreset : s = .reset
      · subst hreset
        exact ⟨WorldTime.advancing_start h.scale, fun hne => absurd rfl hne⟩
      · rw [time_step script htick hreset]
        exact ⟨h, fun _ => Double.le_self_of_nonneg h.elapsed⟩

/-- A run whose configurations are forward goes forward. -/
theorem advancing_run (config : Config Float) (host : σ) (steps : List (Step κ σ Float))
    (h : ∀ pre, pre <+: steps →
      Forward ((new config host : Game κ σ Float).run script pre).config.timeScale) :
    ((new config host : Game κ σ Float).run script steps).world.time.Advancing := by
  induction steps using List.reverseRecOn with
  | nil => exact WorldTime.advancing_start (h [] List.nil_prefix)
  | append_singleton pre s ih =>
      have hpre := ih fun p hp => h p (hp.trans (List.prefix_append pre [s]))
      rw [run_append]
      exact (advancing_step hpre (attuned_run script config host pre)
        (h pre (List.prefix_append pre [s])) s).1

end Game

-- ============================================================== the result

variable [DecidableEq κ] [Journal (Notice κ Float) σ]

/-- The time of the runs of a game, for a script of its handlers. A run `pre`
leads to the game `g pre`. -/
structure KeepsTime (script : Script κ σ Float) (config : Config Float)
    (g : List (Game.Step κ σ Float) → Game κ σ Float) : Prop where
  /-- The first frame uses the scale with which the game was made. -/
  first : ∀ pre, (∀ s ∈ pre, s.isTick = false) →
    (g pre).world.time.timeScale = config.timeScale
  /-- Each later one uses the scale that the configuration had when the frame
  before it began, which is when that frame looked at it: edits that its handlers
  or anyone after it made wait for another frame. -/
  lag : ∀ pre dt post, (∀ s ∈ post, s.isTick = false) →
    SameScale (g (pre ++ .tick dt :: post)).world.time.timeScale (g pre).config.timeScale
  /-- The delta of a frame is its `dt` at that scale; while the game is paused, and
  if `dt` is negative or no number, it is zero at that scale. -/
  delta : ∀ pre dt, (g (pre ++ [.tick dt])).world.time.delta
    = (if (g pre).paused = true ∨ ¬(0.0 : Float) ≤ dt then 0.0 else dt)
        * (g pre).world.time.timeScale
  /-- From the start or a reset on, deltas add up and frames are counted. -/
  sum : ∀ old recent, (old = [] ∨ ∃ older, old = older ++ [.reset]) → .reset ∉ recent →
    (g (old ++ recent)).world.time.elapsed
        = ((g old).deltas script recent).foldl (· + ·) 0.0
      ∧ (g (old ++ recent)).world.time.frameCount = recent.countP Game.Step.isTick
  /-- As long as the scales of the configuration are positive and finite, the delta
  is a number that is not negative, and time goes back in a reset only. -/
  forward : ∀ pre, (∀ p, p <+: pre → Forward (g p).config.timeScale) →
    (0.0 : Float) ≤ (g pre).world.time.delta
      ∧ ∀ s, s ≠ .reset → (g pre).world.time.elapsed ≤ (g (pre ++ [s])).world.time.elapsed

/-- Every run of every game keeps time, whatever its handlers do and whatever
numbers its frames are given. -/
theorem time_runs_one_frame_behind_the_configuration (script : Script κ σ Float)
    (config : Config Float) (host : σ) :
    KeepsTime script config ((Game.new config host : Game κ σ Float).run script) := by
  have hattuned := Game.attuned_run script config host
  constructor
  case first => exact fun pre hpre => Game.timeScale_run script hpre _
  case lag =>
    intro pre dt post hpost
    rw [Game.run_append, Game.run_cons, Game.timeScale_run script hpost]
    exact Game.sameScale_tick script (hattuned pre) dt
  case delta =>
    intro pre dt
    rw [Game.run_append]
    generalize (Game.new config host : Game κ σ Float).run script pre = g
    have htime := (Game.time_tick script g dt).trans (g.time_begun dt)
    show (g.step script (.tick dt)).world.time.delta = _
    rw [htime]
    unfold Game.delta
    cases g.paused with
    | true => simp
    | false => simp
  case sum =>
    intro old recent hold hrecent
    have hstart : ((Game.new config host : Game κ σ Float).run script old).world.time.elapsed = 0.0
        ∧ ((Game.new config host : Game κ σ Float).run script old).world.time.frameCount = 0 := by
      rcases hold with rfl | ⟨older, rfl⟩
      · exact ⟨rfl, rfl⟩
      · rw [Game.run_append]
        exact ⟨rfl, rfl⟩
    obtain ⟨helapsed, hframes⟩ := Game.time_run script hrecent
      ((Game.new config host : Game κ σ Float).run script old)
    rw [Game.run_append, helapsed, hframes, hstart.1, hstart.2, Nat.zero_add]
    exact ⟨rfl, rfl⟩
  case forward =>
    intro pre hforward
    have hadvancing := Game.advancing_run config host pre hforward
    refine ⟨hadvancing.delta, fun s hs => ?_⟩
    rw [Game.run_append]
    have hconfig := hforward pre (List.prefix_refl pre)
    exact (Game.advancing_step hadvancing (hattuned pre) hconfig s).2 hs

end Stagecraft
