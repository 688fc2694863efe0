/-
The demonstration: an actor that crosses the window while it turns once.

The actor starts at the left edge, half way down, and its tween takes nine
tenths of the run, so that its completion falls into the run. Every half
second the actor's position is reported. Two callbacks occur, one for the
completion and one for the report, and the host state is the record of all
that was said, by the toolkit and by the demonstration.
-/
import Stagecraft.Game

namespace Stagecraft.Demo

/-- The callbacks of the demonstration. -/
inductive Cue where
  | arrived
  | report (actor : PuppetId)
  deriving DecidableEq, Repr

/-- What the demonstration itself has to say. -/
inductive Line (α : Type) where
  | usingDefaults (fault : Fault α)
  | failed (fault : Fault α)
  | arrived (frame : Nat)
  | announced (id : TweenId)
  | position (name : String) (pos : α × α) (angle : α)
  | summary (frames : Nat) (elapsed : α) (pos topLeft : α × α)

inductive Entry (α : Type) where
  | notice (n : Notice Cue α)
  | line (l : Line α)

/-- All that was said, in order. -/
abbrev Record (α : Type) := Array (Entry α)

variable {α : Type}

instance : Journal (Notice Cue α) (Record α) := ⟨fun n r => r.push (.notice n)⟩

def say (l : Line α) (w : World Cue (Record α) α) : World Cue (Record α) α :=
  { w with host := w.host.push (.line l) }

/-- The image that the demonstration shows. -/
def image : String := "alien"

-- =============================================================== the run

section Run

variable [Elementary α]

/-- Name, position and angle of an actor. -/
def report (w : World Cue (Record α) α) (p : PuppetId) : World Cue (Record α) α :=
  match w.stage.puppet? p with
  | some (.actor a) => say (.position (w.stage.nameOf a.image) a.pos a.angle) w
  | _ => w

def handlers : Handlers Cue (Record α) α where
  call
    | .arrived, w => say (.arrived w.time.frameCount) w
    | .report p, w => report w p
  finished id w := say (.announced id) w

/-- The seconds that the actor takes: nine tenths of the run, of one frame at
least. -/
def duration (frameTime : α) (frames : Nat) : α :=
  frameTime * ((max frames 1 : Nat) : α) * 0.9

/-- Makes sure that there is an image to show. -/
def prepare (w : World Cue (Record α) α) : World Cue (Record α) α :=
  if w.galleryOrNew.contains image then w else (w.registerImage image ⟨66.0, 92.0⟩).2

/-- Puts the actor on the stage. -/
def enter (g : Game Cue (Record α) α) : Except (Fault α) (PuppetId × Game Cue (Record α) α) := do
  let w := prepare g.world
  let id ← w.galleryOrNew.get image
  let height : α := ((g.config.height.toNat : Nat) : α)
  let actor := (Actor.new id (w.stage.sizeOf id)).setPos (0.0, height / 2.0)
  let (p, stage) := w.stage.addPuppet (.actor actor)
  return (p, { g with world := { w with stage } })

/-- Starts the animation and the reports. -/
def begin (g : Game Cue (Record α) α) (p : PuppetId) (easing : Easing) (frames : Nat) :
    Except (Fault α) (Game Cue (Record α) α) := do
  let width : α := ((g.config.width.toNat : Nat) : α)
  let t : Tween Cue α ← Tween.new g.world.stage p (duration g.config.frameTime frames)
    [("posx", .scalar width), ("angle", .scalar 360.0)]
  let (_, w) := g.world.animateTween { t with easing, onComplete := some .arrived }
  let (result, w) := w.scheduleInterval (.report p) 0.5
  result
  return { g with world := w }

/-- What is said at the end. -/
def conclude (g : Game Cue (Record α) α) (p : PuppetId) : Game Cue (Record α) α :=
  let w := g.world
  match w.stage.puppet? p with
  | some (.actor a) =>
    let topLeft := a.topLeft (w.stage.sizeOf a.image)
    let world := say (.summary w.time.frameCount w.time.elapsed a.pos topLeft) w
    { g with world }
  | _ => g

/-- The run of a number of frames. -/
def run (g : Game Cue (Record α) α) (easing : Easing) (frames : Nat) :
    Except (Fault α) (Game Cue (Record α) α) := do
  let (p, g) ← enter g
  let g ← begin g p easing frames
  return conclude (g.runFrames handlers frames) p

end Run

-- =============================================================== wording

/-- A pair as it is described. -/
def pairText (p : Float × Float) : String :=
  "(" ++ Decimal.Style.descriptive.render p.1 ++ ", " ++ Decimal.Style.descriptive.render p.2 ++ ")"

/-- An actor as it is described. -/
def actorText (name : String) (pos : Float × Float) : String :=
  "<Actor '" ++ name ++ "' pos=(" ++ Fault.amount pos.1 ++ ", " ++ Fault.amount pos.2 ++ ")>"

namespace Line

def level : Line α → Level
  | usingDefaults _ => .warn
  | failed _ => .error
  | _ => .info

def text : Line Float → String
  | usingDefaults fault => "Using default config: " ++ fault.message
  | failed fault => fault.message
  | arrived frame => "Animation done at frame " ++ toString frame
  | announced id => "Tween " ++ id.text ++ " finished"
  | position name pos angle =>
    actorText name pos ++ " angle=" ++ Decimal.withPlaces 1 angle
  | summary frames elapsed pos topLeft =>
    "Ran " ++ toString frames ++ " frames (" ++ Decimal.withPlaces 3 elapsed ++ "s): actor at " ++
      pairText pos ++ ", topleft " ++ pairText topLeft

end Line

namespace Entry

def level : Entry α → Level
  | notice n => n.level
  | line l => l.level

def source : Entry α → String
  | notice n => n.source
  | line _ => "zeroframe"

def text : Entry Float → String
  | notice n => n.text
  | line l => l.text

end Entry

end Stagecraft.Demo
