/-
Changes in place.

An operation that gives a new value has none to give where it fails. Asked
to change a value where it is, it might fail halfway: it reads, checks and
writes in turn, and a check that fails ends it with all that was written until
then. This is what `EStateM` says, whose faults come with the state that they
were found in.

The programs here are the operations on vectors, actors, queues and images
that may fail, step by step: every check where it is made, and every write by
itself. A program that comes to the same as an operation which gives the whole
new value at once (`inPlace`, `answering`) has left nothing behind when it
fails; that each of them does is proved in `Proofs/InPlace.lean`.
-/
import Stagecraft.World

namespace Stagecraft

section Change

variable {ε σ β : Type}

/-- Puts what an operation gives in the place of the value. -/
def inPlace (f : σ → Except ε σ) : EStateM ε σ Unit := fun s =>
  match f s with
  | .ok s' => .ok () s'
  | .error e => .error e s

/-- Puts what an operation gives beside its answer in the place of the value. -/
def answering (f : σ → Except ε β × σ) : EStateM ε σ β := fun s =>
  match f s with
  | (.ok b, s') => .ok b s'
  | (.error e, s') => .error e s'

end Change

variable {κ σ α : Type}

-- ================================================================ vectors

section Vectors

variable [Elementary α]

open Scalar

namespace Vec2

def normalizing : EStateM (Fault α) (Vec2 α) Unit := do
  let length := (← get).length
  if length ≤ 0.0 then throw (.zeroLength "normalize")
  modify fun v => { v with x := v.x / length }
  modify fun v => { v with y := v.y / length }

def scaling (length : α) : EStateM (Fault α) (Vec2 α) Unit := do
  let old := (← get).length
  if old ≤ 0.0 then throw (.zeroLength "scale")
  let factor := length / old
  modify fun v => { v with x := v.x * factor }
  modify fun v => { v with y := v.y * factor }

def reflecting (normal : Vec2 α) : EStateM (Fault α) (Vec2 α) Unit := do
  let n ← ofExcept (normal.normalize.mapError fun _ => .zeroLength "reflect off")
  let d := 2.0 * (← get).dot n
  modify fun v => { v with x := v.x - d * n.x }
  modify fun v => { v with y := v.y - d * n.y }

end Vec2

namespace Vec3

def normalizing : EStateM (Fault α) (Vec3 α) Unit := do
  let length := (← get).length
  if length ≤ 0.0 then throw (.zeroLength "normalize")
  modify fun v : Vec3 α => v / length

def scaling (length : α) : EStateM (Fault α) (Vec3 α) Unit := do
  let old := (← get).length
  if old ≤ 0.0 then throw (.zeroLength "scale")
  modify fun v : Vec3 α => v * (length / old)

def reflecting (normal : Vec3 α) : EStateM (Fault α) (Vec3 α) Unit := do
  let n ← ofExcept (normal.normalize.mapError fun _ => .zeroLength "reflect off")
  let d := 2.0 * (← get).dot n
  modify fun v : Vec3 α => v - n * d

def rotating (radians : α) (axis : Vec3 α) : EStateM (Fault α) (Vec3 α) Unit := do
  let length := axis.length
  if length < angleTolerance then throw (.zeroLength "rotate around")
  let unit := if angleTolerance < abs (length - 1.0) then axis / length else axis
  modify fun v => v.turn unit (turnOf radians)

end Vec3

end Vectors

-- ================================================================= actors

namespace Actor

/-- Gives an actor the image of another name. -/
def switchingImage (g : Gallery) (name : String) : EStateM (Fault α) (Actor α) Unit := do
  let image ← ofExcept (g.get name)
  modify fun a => { a with image }

def anchoring (name : String) : EStateM (Fault α) (Actor α) Unit := do
  let p ← ofExcept (AnchorPoint.parse name)
  modify fun a => { a with anchorX := p.horizontal }
  modify fun a => { a with anchorY := p.vertical }

/-- Anchors an actor by one name per axis. -/
def anchoringAxes (x y : String) : EStateM (Fault α) (Actor α) Unit := do
  let x ← ofExcept (AnchorX.parse x)
  let y ← ofExcept (AnchorY.parse y)
  modify fun a => { a with anchorX := x }
  modify fun a => { a with anchorY := y }

end Actor

-- ================================================================ puppets

namespace Puppet

def vec2? : Puppet α → Option (Vec2 α)
  | vec2 v => some v
  | _ => none

def vec3? : Puppet α → Option (Vec3 α)
  | vec3 v => some v
  | _ => none

def actor? : Puppet α → Option (Actor α)
  | actor a => some a
  | _ => none

end Puppet

-- ============================================================== the world

namespace World

/-- Changes a puppet of one kind. Where there is none of this kind, nothing is changed. -/
def onPuppet {ε τ : Type} (p : PuppetId) (read : Puppet α → Option τ) (put : τ → Puppet α)
    (m : EStateM ε τ Unit) : EStateM ε (World κ σ α) Unit := fun w =>
  match (w.stage.puppet? p).bind read with
  | none => .ok () w
  | some t =>
    match m.run t with
    | .ok () t => .ok () { w with stage := w.stage.setPuppet p (put t) }
    | .error e t => .error e { w with stage := w.stage.setPuppet p (put t) }

section Queues

variable [Elementary α] [Journal (Notice κ α) σ]

def scheduling (c : κ) (delay : α) : EStateM (Fault α) (World κ σ α) Unit := do
  modify fun w => { w with clock := some w.clockOrNew }
  let delay ← ofExcept (ensurePositive "delay" delay)
  modify (·.note (.callScheduled c delay))
  modify fun w => { w with clock := some ⟨w.clockOrNew.queue ++ [⟨c, delay, 0.0⟩]⟩ }

/-- The delay is looked at before anything is dropped, and once more after it. -/
def schedulingUniquely [DecidableEq κ] (c : κ) (delay : α) :
    EStateM (Fault α) (World κ σ α) Unit := do
  modify fun w => { w with clock := some w.clockOrNew }
  let delay ← ofExcept (ensurePositive "delay" delay)
  modify fun w => (w.unschedule c).2
  scheduling c delay

def schedulingInterval (c : κ) (interval : α) : EStateM (Fault α) (World κ σ α) Unit := do
  modify fun w => { w with clock := some w.clockOrNew }
  let interval ← ofExcept (ensurePositive "interval" interval)
  modify (·.note (.callRepeated c interval))
  modify fun w => { w with clock := some ⟨w.clockOrNew.queue ++ [⟨c, interval, interval⟩]⟩ }

def animating (target : PuppetId) (duration : α) (requests : List (String × AttrValue α))
    (easing : Option String) (onComplete : Option κ) :
    EStateM (Fault α) (World κ σ α) (Option TweenId) := do
  let w ← get
  let t : Tween κ α ← ofExcept (Tween.new w.stage target duration requests)
  let t ← ofExcept (t.withEasing easing)
  modifyGet fun w => w.animateTween { t with onComplete }

end Queues

def resizing (name : String) (size : Size α) : EStateM (Fault α) (World κ σ α) Unit := do
  modify fun w => { w with gallery := some w.galleryOrNew }
  let w ← get
  let i ← ofExcept (w.galleryOrNew.get name)
  modify fun w => { w with stage := w.stage.resize i size }

/-- Reads the whole manifest before the first image is registered. -/
def loadingManifest [Journal (Notice κ Float) σ] (text : String) :
    EStateM (Fault Float) (World κ σ Float) Nat := do
  modify fun w => { w with gallery := some w.galleryOrNew }
  let m ← ofExcept ((Manifest.parse text).mapError .ofManifest)
  modifyGet (·.registerManifest m)

end World

end Stagecraft
