/-
Tweens: attributes on their way from a start to an end.

A tween captures the start of every attribute that it is asked to move and
that its puppet has in the shape of the wanted end; other requests are passed
over. Until its duration is exceeded it puts the attributes at the share of
the way that its easing says; after that it puts them at their ends exactly.
It is done once its duration is exceeded, or when it has nothing to move.
-/
import Stagecraft.Stage
import Stagecraft.Easing

namespace Stagecraft

/-- An attribute on its way. -/
structure Track (α : Type) where
  name : String
  start : AttrValue α
  stop : AttrValue α
  deriving DecidableEq, Repr

/-- A running animation of a puppet. `κ` names the callbacks. -/
structure Tween (κ α : Type) where
  target : PuppetId
  tracks : List (Track α)
  elapsed : α
  duration : α
  easing : Easing
  onComplete : Option κ

namespace Tween

variable {κ α : Type}

-- ============================================================= beginning

/-- The attributes on their way after one more request. A name that is on its
way already gets the new end. -/
def track (read : String → Option (AttrValue α)) (tracks : List (Track α))
    (request : String × AttrValue α) : List (Track α) :=
  let (name, stop) := request
  match read name with
  | none => tracks
  | some start =>
    if start.sameShape stop then
      if tracks.any fun t => t.name == name then
        tracks.map fun t => if t.name == name then { t with stop } else t
      else tracks ++ [⟨name, start, stop⟩]
    else tracks

/-- The attributes on their way after a list of requests. -/
def trackAll (read : String → Option (AttrValue α)) (requests : List (String × AttrValue α)) :
    List (Track α) :=
  requests.foldl (track read) []

variable [Elementary α]

/-- A tween of a puppet on the stage, with the linear easing and no callback. -/
def new (stage : Stage α) (target : PuppetId) (duration : α)
    (requests : List (String × AttrValue α)) : Except (Fault α) (Tween κ α) :=
  (ensurePositive "duration" duration).map fun duration =>
    { target, tracks := trackAll (stage.attr? target) requests, elapsed := 0.0, duration
      easing := .linear, onComplete := none }

/-- The tween with the easing of a name, if a name is given. -/
def withEasing (t : Tween κ α) : Option String → Except (Fault α) (Tween κ α)
  | none => .ok t
  | some name => (Easing.parse name).map fun easing => { t with easing }

-- =============================================================== running

def isDone (t : Tween κ α) : Bool := t.tracks.isEmpty || decide (t.duration < t.elapsed)

/-- The values that the attributes have by now. -/
def values (t : Tween κ α) : List (String × AttrValue α) :=
  if t.duration < t.elapsed then t.tracks.map fun a => (a.name, a.stop)
  else
    let n := t.easing.apply (t.elapsed / t.duration)
    t.tracks.map fun a => (a.name, AttrValue.interpolate a.start a.stop n)

/-- Lets time pass and puts the attributes where they are then. -/
def update (t : Tween κ α) (dt : α) (s : Stage α) : Tween κ α × Stage α :=
  let t := { t with elapsed := t.elapsed + dt }
  (t, t.values.foldl (fun s (name, value) => s.setAttr t.target name value) s)

/-- Start and end of an attribute. -/
def endpoints? (t : Tween κ α) (name : String) : Option (AttrValue α × AttrValue α) :=
  (t.tracks.find? fun a => a.name == name).map fun a => (a.start, a.stop)

end Tween

-- ============================================================= the queue

/-- The number of a tween in the order of queueing. -/
structure TweenId where
  number : Nat
  deriving DecidableEq, Repr

/-- A tween that has just run to its end. -/
structure FinishedTween (κ : Type) where
  id : TweenId
  onComplete : Option κ

/-- The running tweens in order of queueing, and the number of the next one.
Numbers are never given twice. -/
structure TweenQueue (κ α : Type) where
  tasks : List (TweenId × Tween κ α) := []
  next : Nat := 0

namespace TweenQueue

variable {κ α : Type}

def empty : TweenQueue κ α := {}

/-- Queues a tween as it is. -/
def push (q : TweenQueue κ α) (t : Tween κ α) : TweenId × TweenQueue κ α :=
  (⟨q.next⟩, ⟨q.tasks ++ [(⟨q.next⟩, t)], q.next + 1⟩)

def get? (q : TweenQueue κ α) (id : TweenId) : Option (Tween κ α) :=
  (q.tasks.find? fun p => p.1 == id).map Prod.snd

def contains (q : TweenQueue κ α) (id : TweenId) : Bool := (q.get? id).isSome

/-- Puts a tween in the place of the one with this number. -/
def set (q : TweenQueue κ α) (id : TweenId) (t : Tween κ α) : TweenQueue κ α :=
  { q with tasks := q.tasks.map fun p => if p.1 == id then (id, t) else p }

/-- Takes a tween out of the queue without finishing it. -/
def cancel (q : TweenQueue κ α) (id : TweenId) : TweenQueue κ α :=
  { q with tasks := q.tasks.eraseP fun p => p.1 == id }

/-- Drops all tweens; the numbering goes on. -/
def clear (q : TweenQueue κ α) : TweenQueue κ α := { q with tasks := [] }

variable [Elementary α]

/-- Queues a tween unless it is done. -/
def animate (q : TweenQueue κ α) (t : Tween κ α) : Option TweenId × TweenQueue κ α :=
  if t.isDone then (none, q)
  else
    let (id, q) := q.push t
    (some id, q)

/-- Lets time pass for every task in order: what is left, and what finished.
A task that was done before is dropped without finishing. -/
def advanceTasks (dt : α) : List (TweenId × Tween κ α) → Stage α →
    List (FinishedTween κ) × List (TweenId × Tween κ α) × Stage α
  | [], s => ([], [], s)
  | (id, t) :: rest, s =>
    if t.isDone then advanceTasks dt rest s
    else
      let (t, s) := t.update dt s
      let (finished, left, s) := advanceTasks dt rest s
      if t.isDone then (⟨id, t.onComplete⟩ :: finished, left, s)
      else (finished, (id, t) :: left, s)

/-- Lets time pass: the tweens that finished, in order of queueing. -/
def advance (q : TweenQueue κ α) (dt : α) (s : Stage α) :
    List (FinishedTween κ) × TweenQueue κ α × Stage α :=
  let (finished, left, s) := advanceTasks dt q.tasks s
  (finished, { q with tasks := left }, s)

end TweenQueue

end Stagecraft
