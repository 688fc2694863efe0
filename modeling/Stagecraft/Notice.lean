/-
Notices: what the toolkit tells the program that embeds it.

A notice is a value that says what happened; its level, its source and its
wording follow from it. The embedding program decides what becomes of
notices: it keeps some state of its own beside the world, its host state, and
says through `Journal` how a notice changes it.
-/
import Stagecraft.Config
import Stagecraft.Tween
import Stagecraft.Text.Quoted

namespace Stagecraft

/-- How grave a notice is, the gravest first. -/
inductive Level where
  | error
  | warn
  | info
  | debug
  | trace
  deriving DecidableEq, Repr

namespace Level

def name : Level → String
  | error => "ERROR"
  | warn => "WARN"
  | info => "INFO"
  | debug => "DEBUG"
  | trace => "TRACE"

def rank : Level → Nat
  | error => 1
  | warn => 2
  | info => 3
  | debug => 4
  | trace => 5

end Level

/-- What happened, over callbacks `κ` and scalars `α`. -/
inductive Notice (κ α : Type) where
  | configLoaded (config : Config α)
  | configSaved (path : String)
  | gameStarted (config : Config α)
  | gamePaused (frame : Nat)
  | gameResumed (frame : Nat)
  | gameReset
  | timeScaleChanged (old new : α)
  | deltaIgnored (dt : α)
  | imageListed (name : String) (size : Size α)
  | imagesLoaded (count : Nat) (path : String)
  | callScheduled (callback : κ) (delay : α)
  | callRepeated (callback : κ) (interval : α)
  | callsUnscheduled (callback : κ) (count : Nat)
  | tweenEmpty
  | tweenQueued (id : TweenId) (duration : α)
  | tweenFinished (id : TweenId)

namespace Notice

variable {κ α : Type}

def level : Notice κ α → Level
  | deltaIgnored _ => .warn
  | imageListed _ _ | callScheduled _ _ | callRepeated _ _ | callsUnscheduled _ _
  | tweenEmpty | tweenQueued _ _ | tweenFinished _ => .debug
  | _ => .info

/-- The part of the toolkit that a notice comes from. -/
def source : Notice κ α → String
  | configLoaded _ | configSaved _ => "zeroframe::resources::gameconfig"
  | gameStarted _ | gamePaused _ | gameResumed _ | gameReset => "zeroframe::game"
  | timeScaleChanged _ _ => "zeroframe::systems::gameconfig"
  | deltaIgnored _ => "zeroframe::systems::time"
  | imageListed _ _ | imagesLoaded _ _ => "zeroframe::resources::imagestore"
  | callScheduled _ _ | callRepeated _ _ | callsUnscheduled _ _ => "zeroframe::resources::clock"
  | tweenEmpty | tweenQueued _ _ => "zeroframe::resources::tweener"
  | tweenFinished _ => "zeroframe::systems::tween"

end Notice

/-- The written form of a tween's number. -/
def TweenId.text (id : TweenId) : String := "#" ++ toString id.number

/-- The written form of any callback; the address in it says nothing about it. -/
def callbackText : String := "Callback(0x5581a0b4c2d0)"

/-- A text in which callbacks are written without their addresses. -/
def withoutAddresses (text : String) : String :=
  let opening := "Callback(0x"
  let isDigit (c : Char) : Bool := c.isDigit || ('a' ≤ c && c ≤ 'f')
  match text.splitOn opening with
  | first :: rest =>
    first ++ String.join (rest.map fun part =>
      let cs := part.toList
      match cs.takeWhile isDigit, cs.dropWhile isDigit with
      | _ :: _, ')' :: after => "Callback()" ++ String.ofList after
      | _, _ => opening ++ part)
  | [] => text

/-- The description of a text that may be absent. -/
def optionText (describe : String → String) : Option String → String
  | some s => "Some(" ++ describe s ++ ")"
  | none => "None"

open Fault (amount) in
def Notice.text {κ : Type} : Notice κ Float → String
  | configLoaded c =>
    "Loaded config: " ++ toString c.width ++ "x" ++ toString c.height ++ ", fps=" ++
      toString c.targetFps ++ ", time_scale=" ++ amount c.timeScale ++ ", images=" ++
      optionText Text.quote c.images
  | configSaved path => "Saved config to " ++ Text.quote path
  | gameStarted c =>
    "Starting game: " ++ toString c.width ++ "x" ++ toString c.height ++ " at " ++
      toString c.targetFps ++ " fps"
  | gamePaused frame => "Paused at frame " ++ toString frame
  | gameResumed frame => "Resumed at frame " ++ toString frame
  | gameReset => "Game reset"
  | timeScaleChanged old new => "Time scale: " ++ amount old ++ " -> " ++ amount new
  | deltaIgnored dt => "ignoring invalid frame delta " ++ amount dt
  | imageListed name size =>
    "image " ++ name ++ ": " ++ amount size.width ++ "x" ++ amount size.height
  | imagesLoaded count path =>
    "Loaded " ++ toString count ++ " images from " ++ Text.quote path
  | callScheduled _ delay => "schedule " ++ callbackText ++ " in " ++ amount delay ++ "s"
  | callRepeated _ interval => "schedule " ++ callbackText ++ " every " ++ amount interval ++ "s"
  | callsUnscheduled _ count =>
    "unschedule " ++ callbackText ++ ": " ++ toString count ++ " entries"
  | tweenEmpty => "tween has no attributes to animate, not queued"
  | tweenQueued id duration => "queue tween " ++ id.text ++ " for " ++ amount duration ++ "s"
  | tweenFinished id => "tween " ++ id.text ++ " finished"

/-- How notices `ν` change the host state `σ`. -/
class Journal (ν σ : Type) where
  note : ν → σ → σ

/-- A host that only collects notices, in order. -/
instance {ν : Type} : Journal ν (List ν) := ⟨fun n notes => notes ++ [n]⟩

end Stagecraft
