/-
Games: worlds that go on frame by frame.

A game starts with a configuration, an empty clock, no tweens and no images.
A tick begins a frame and runs the three passes of it: the configuration is
looked at, then due callbacks are called, then tweens move. While the game is
paused frames are counted, and the queues see a delta of zero.
-/
import Stagecraft.World

namespace Stagecraft

structure Game (κ σ α : Type) where
  world : World κ σ α
  paused : Bool

namespace Game

variable {κ σ α : Type} [Elementary α] [Journal (Notice κ α) σ]

/-- A game that has not begun. -/
def new (config : Config α) (host : σ) : Game κ σ α :=
  let world : World κ σ α :=
    { time := .start config.timeScale
      config := some ⟨config, true⟩
      clock := some .empty
      tweens := some .empty
      gallery := some .empty
      stage := {}
      host }
  ⟨world.note (.gameStarted config), false⟩

/-- The configuration, the values to start with where there is none. -/
def config (g : Game κ σ α) : Config α :=
  match g.world.config with
  | some c => c.value
  | none => .new Config.defaultPath

/-- One frame of `dt` seconds. -/
def tick (h : Handlers κ σ α) (g : Game κ σ α) (dt : α) : Game κ σ α :=
  { g with world := (g.world.updateTime (if g.paused then 0.0 else dt)).runFrame h }

/-- A number of frames of `dt` seconds. -/
def ticks (h : Handlers κ σ α) (dt : α) : Nat → Game κ σ α → Game κ σ α
  | 0, g => g
  | n + 1, g => ticks h dt n (g.tick h dt)

/-- A number of frames at the rate that is configured at their beginning. -/
def runFrames (h : Handlers κ σ α) (g : Game κ σ α) (frames : Nat) : Game κ σ α :=
  ticks h g.config.frameTime frames g

def pause (g : Game κ σ α) : Game κ σ α :=
  if g.paused then g
  else ⟨g.world.note (.gamePaused g.world.time.frameCount), true⟩

def resume (g : Game κ σ α) : Game κ σ α :=
  if g.paused then ⟨g.world.note (.gameResumed g.world.time.frameCount), false⟩ else g

/-- Drops all calls and tweens and begins time anew, with the same scale. -/
def reset (g : Game κ σ α) : Game κ σ α :=
  let w := g.world
  { g with
    world := { w with
      clock := some .empty
      tweens := some w.tweensOrNew.clear
      time := .start w.time.timeScale }.note .gameReset }

/-- Registers the images of the manifest that is configured, if there is one. -/
def loadImages {κ σ : Type} [Journal (Notice κ Float) σ] (g : Game κ σ Float)
    (read : FileReader) : Except (Fault Float) Nat × Game κ σ Float :=
  match g.config.images with
  | none => (.ok 0, g)
  | some path =>
    let (count, world) := g.world.loadManifest read path
    (count, { g with world })

end Game

end Stagecraft
