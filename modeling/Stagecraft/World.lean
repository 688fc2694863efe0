/-
The world: everything that a frame reads and changes.

A world has its time, the stage, and four parts that may be missing: the
configuration, the clock, the tweens and the gallery. What callbacks do is not
part of it. A world is written over a type `κ` of callback names, and
whoever drives it says what a callback does to the world, as a function that
may use every operation here. The passes over the queues first rebuild the
queue and then call: which callbacks run in a pass is settled before the first
one runs.

Beside these the world carries the host state `σ` of the embedding program,
which no operation reads and only notices change.
-/
import Stagecraft.Notice
import Stagecraft.Clock
import Stagecraft.Gallery
import Stagecraft.Manifest

namespace Stagecraft

/-- Scaled seconds since the start and of this frame, the scale, and the number
of frames. Frames are counted by natural numbers: games of fewer than 2 ^ 64 frames
are meant, whose count fits into a machine word. -/
structure WorldTime (α : Type) where
  elapsed : α
  delta : α
  timeScale : α
  frameCount : Nat
  deriving DecidableEq, Repr

/-- The time of a world that has not begun. -/
def WorldTime.start {α : Type} [Scalar α] (timeScale : α) : WorldTime α :=
  ⟨0.0, 0.0, timeScale, 0⟩

/-- A value with a mark that says whether it changed since it was last looked at. -/
structure Watched (β : Type) where
  value : β
  changed : Bool

/-- A world over callbacks `κ`, host state `σ` and scalars `α`. -/
structure World (κ σ α : Type) where
  time : WorldTime α
  config : Option (Watched (Config α))
  clock : Option (Clock κ α)
  tweens : Option (TweenQueue κ α)
  gallery : Option Gallery
  stage : Stage α
  host : σ

/-- What the driver of a world does when a callback is due, and when a tween is
announced as finished. -/
structure Handlers (κ σ α : Type) where
  call : κ → World κ σ α → World κ σ α
  finished : TweenId → World κ σ α → World κ σ α

namespace World

variable {κ σ α : Type}

/-- A world with its time and nothing else. -/
def bare [Scalar α] (timeScale : α) (host : σ) : World κ σ α :=
  { time := .start timeScale, config := none, clock := none, tweens := none
    gallery := none, stage := {}, host }

def note [Journal (Notice κ α) σ] (w : World κ σ α) (n : Notice κ α) : World κ σ α :=
  { w with host := Journal.note n w.host }

/-- The clock, a new one where there is none. -/
def clockOrNew (w : World κ σ α) : Clock κ α := w.clock.getD .empty

/-- The tweens, a new queue where there is none. -/
def tweensOrNew (w : World κ σ α) : TweenQueue κ α := w.tweens.getD .empty

/-- The gallery, a new one where there is none. -/
def galleryOrNew (w : World κ σ α) : Gallery := w.gallery.getD .empty

-- ==================================================== scheduling callbacks

section Scheduling

variable [Scalar α] [Journal (Notice κ α) σ]

/-- Schedules through `edit`. The world has a clock afterwards even if the
delay was refused. -/
def editClock (w : World κ σ α) (edit : Clock κ α → Except (Fault α) (Clock κ α))
    (notes : List (Notice κ α)) : Except (Fault α) Unit × World κ σ α :=
  match edit w.clockOrNew with
  | .ok clock => (.ok (), notes.foldl note { w with clock := some clock })
  | .error f => (.error f, { w with clock := some w.clockOrNew })

/-- Calls once after a delay. -/
def schedule (w : World κ σ α) (c : κ) (delay : α) : Except (Fault α) Unit × World κ σ α :=
  w.editClock (·.schedule c delay) [.callScheduled c delay]

/-- The notices of dropping the entries of a callback. -/
def unscheduleNotes [DecidableEq κ] (w : World κ σ α) (c : κ) : List (Notice κ α) :=
  let n := w.clockOrNew.count c
  if n = 0 then [] else [.callsUnscheduled c n]

/-- Calls once after a delay, in place of every entry of the same callback. -/
def scheduleUnique [DecidableEq κ] (w : World κ σ α) (c : κ) (delay : α) :
    Except (Fault α) Unit × World κ σ α :=
  w.editClock (·.scheduleUnique c delay) (w.unscheduleNotes c ++ [.callScheduled c delay])

/-- Calls after every interval. -/
def scheduleInterval (w : World κ σ α) (c : κ) (interval : α) :
    Except (Fault α) Unit × World κ σ α :=
  w.editClock (·.scheduleInterval c interval) [.callRepeated c interval]

/-- Drops every entry of a callback, and answers how many there were. -/
def unschedule [DecidableEq κ] (w : World κ σ α) (c : κ) : Nat × World κ σ α :=
  (w.clockOrNew.count c,
    (w.unscheduleNotes c).foldl note { w with clock := some (w.clockOrNew.unschedule c) })

end Scheduling

-- ============================================================== animating

section Animating

variable [Elementary α] [Journal (Notice κ α) σ]

/-- A tween of a puppet of this world. The duration is looked at before the
name of the easing. -/
def newTween (w : World κ σ α) (target : PuppetId) (duration : α)
    (requests : List (String × AttrValue α)) (easing : Option String) (onComplete : Option κ) :
    Except (Fault α) (Tween κ α) := do
  let t : Tween κ α ← Tween.new w.stage target duration requests
  let t ← t.withEasing easing
  return { t with onComplete }

/-- Queues a tween as it is. -/
def pushTween (w : World κ σ α) (t : Tween κ α) : TweenId × World κ σ α :=
  let (id, q) := w.tweensOrNew.push t
  (id, { w with tweens := some q }.note (.tweenQueued id t.duration))

/-- Queues a tween unless it is done. -/
def animateTween (w : World κ σ α) (t : Tween κ α) : Option TweenId × World κ σ α :=
  if t.isDone then (none, { w with tweens := some w.tweensOrNew }.note .tweenEmpty)
  else
    let (id, w) := w.pushTween t
    (some id, w)

/-- Moves attributes of a puppet to new values, unless there are none to move. -/
def animate (w : World κ σ α) (target : PuppetId) (duration : α)
    (requests : List (String × AttrValue α)) (easing : Option String) (onComplete : Option κ) :
    Except (Fault α) (Option TweenId) × World κ σ α :=
  match w.newTween target duration requests easing onComplete with
  | .ok t =>
    let (id, w) := w.animateTween t
    (.ok id, w)
  | .error f => (.error f, w)

/-- Stops a tween without finishing it, and answers whether it was running. -/
def cancelTween (w : World κ σ α) (id : TweenId) : Bool × World κ σ α :=
  (w.tweensOrNew.contains id, { w with tweens := some (w.tweensOrNew.cancel id) })

end Animating

-- ================================================================= images

section Images

/-- Gives a name an image of this size, and answers its handle. -/
def registerImage (w : World κ σ α) (name : String) (size : Size α) : ImageId × World κ σ α :=
  let (id, gallery, stage) := w.galleryOrNew.register w.stage name size
  (id, { w with gallery := some gallery, stage })

/-- Resizes the image of a name. -/
def resizeImage (w : World κ σ α) (name : String) (size : Size α) :
    Except (Fault α) Unit × World κ σ α :=
  match w.galleryOrNew.resize w.stage name size with
  | .ok stage => (.ok (), { w with gallery := some w.galleryOrNew, stage })
  | .error f => (.error f, { w with gallery := some w.galleryOrNew })

/-- Registers the images of a manifest, and answers how many there are. -/
def registerManifest [Journal (Notice κ Float) σ] (w : World κ σ Float) (m : Manifest) :
    Nat × World κ σ Float :=
  let (gallery, stage) := w.galleryOrNew.registerAll w.stage m
  (m.count, (m.listing.map fun e => Notice.imageListed e.1 e.2).foldl note
    { w with gallery := some gallery, stage })

/-- Registers the images of a manifest given as text. -/
def loadManifestText [Journal (Notice κ Float) σ] (w : World κ σ Float) (text : String) :
    Except (Fault Float) Nat × World κ σ Float :=
  match Manifest.parse text with
  | .ok m =>
    let (count, w) := w.registerManifest m
    (.ok count, w)
  | .error f => (.error (.ofManifest f), { w with gallery := some w.galleryOrNew })

/-- Registers the images of a manifest in a file. -/
def loadManifest [Journal (Notice κ Float) σ] (w : World κ σ Float) (read : FileReader)
    (path : String) : Except (Fault Float) Nat × World κ σ Float :=
  match Manifest.load read path with
  | .ok m =>
    let (count, w) := w.registerManifest m
    (.ok count, w.note (.imagesLoaded count path))
  | .error f => (.error (.ofManifest f), { w with gallery := some w.galleryOrNew })

end Images

-- ========================================================== configuration

/-- Changes the configuration, which marks it as changed. -/
def editConfig (w : World κ σ α) (edit : Config α → Config α) : World κ σ α :=
  { w with config := w.config.map fun c => ⟨edit c.value, true⟩ }

section Frame

variable [Elementary α] [Journal (Notice κ α) σ]

/-- Takes over the time scale of a configuration that changed. The new scale is
used from the next frame on. -/
def applyConfig (w : World κ σ α) : World κ σ α :=
  match w.config with
  | none => w
  | some c =>
    let seen := { w with config := some { c with changed := false } }
    if c.changed && w.time.timeScale != c.value.timeScale then
      { seen with time := { w.time with timeScale := c.value.timeScale } }.note
        (.timeScaleChanged w.time.timeScale c.value.timeScale)
    else seen

-- =================================================================== time

/-- Begins a frame: time goes on by the scaled delta. A delta that is negative
or no number counts as 0. -/
def updateTime (w : World κ σ α) (dt : α) : World κ σ α :=
  let valid := decide ((0.0 : α) ≤ dt)
  let w := if valid then w else w.note (.deltaIgnored dt)
  let scaled := (if valid then dt else 0.0) * w.time.timeScale
  { w with time := { w.time with
      elapsed := w.time.elapsed + scaled
      delta := scaled
      frameCount := w.time.frameCount + 1 } }

-- ============================================================== the passes

variable (h : Handlers κ σ α)

/-- Calls callbacks one after the other. -/
def callAll (w : World κ σ α) (cs : List κ) : World κ σ α := cs.foldl (fun w c => h.call c w) w

/-- Counts the clock down by the frame's delta, then calls what is due. -/
def updateClock (w : World κ σ α) : World κ σ α :=
  match w.clock with
  | none => w
  | some q =>
    callAll h { w with clock := some (q.advance w.time.delta) } (q.due w.time.delta)

/-- Announces that a tween finished. -/
def announce (w : World κ σ α) (id : TweenId) : World κ σ α :=
  h.finished id (w.note (.tweenFinished id))

/-- Moves the tweens on by the frame's delta. Then the callbacks of those that
finished are called, and after the last callback all of them are announced. -/
def updateTweens (w : World κ σ α) : World κ σ α :=
  match w.tweens with
  | none => w
  | some q =>
    let (finished, q, stage) := q.advance w.time.delta w.stage
    let called := callAll h { w with tweens := some q, stage } (finished.filterMap (·.onComplete))
    (finished.map (·.id)).foldl (announce h) called

/-- What follows the beginning of a frame, in this order. -/
def runFrame (w : World κ σ α) : World κ σ α := ((w.applyConfig).updateClock h).updateTweens h

end Frame

end World

end Stagecraft
