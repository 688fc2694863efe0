/-
The configuration of a game.

A configuration is loaded from a settings file over the values that it has:
what the file does not say, or says unreadably, stays. The keys are taken in
order, and a value that is readable but not allowed stops the loading there,
after the values before it have been taken. Whole numbers are read with 64 bits
and kept with their low 32. A frame rate of 0 counts as 1.
-/
import Stagecraft.Fault.Message
import Stagecraft.Files
import Stagecraft.Ini

namespace Stagecraft

structure Config (α : Type) where
  width : UInt32
  height : UInt32
  targetFps : UInt32
  timeScale : α
  /-- The path of the image manifest. -/
  images : Option String
  /-- The path of the configuration itself. -/
  path : String
  deriving Repr

/-- Why a configuration could not be loaded or saved. -/
inductive ConfigFault where
  | badText (fault : IniFault)
  | badFile (path : String) (fault : IniFault)
  | unreadable (path : String) (fault : FileFault)
  | noFrameRate
  | badTimeScale (fault : Fault Float)
  | unwritable (fault : FileFault)

def ConfigFault.text : ConfigFault → String
  | badText fault => "Failed to parse config: " ++ fault.text
  | badFile path fault => "Failed to load config file: couldn't read " ++ path ++ ": " ++ fault.text
  | unreadable path fault =>
    "Failed to load config file: couldn't read " ++ path ++ ": " ++ fault.text
  | noFrameRate => "target_fps must be at least 1"
  | badTimeScale fault => fault.message
  | unwritable fault => "Failed to save config file: " ++ fault.text

def Fault.ofConfig {α : Type} (f : ConfigFault) : Fault α := .config f.text

namespace Config

section Values

variable {α : Type} [Scalar α]

/-- The values to start with. -/
def new (path : String) : Config α :=
  { width := 800, height := 600, targetFps := 60, timeScale := 1.0, images := none, path }

def defaultPath : String := "./config.ini"

/-- The seconds of one frame at the configured rate. -/
def frameTime (c : Config α) : α := 1.0 / ((max c.targetFps.toNat 1 : Nat) : α)

end Values

-- =============================================================== loading

/-- The value of a whole-number key, cut to 32 bits, or the one there was. -/
def word (ini : Ini) (sec key : String) (old : UInt32) : UInt32 :=
  match ini.natural? sec key with
  | some n => UInt32.ofNat n
  | none => old

/-- Takes the sizes of the window. -/
def applySize (ini : Ini) (c : Config Float) : Config Float :=
  { c with
    width := word ini "window" "width" c.width
    height := word ini "window" "height" c.height }

/-- Takes the frame rate, which may not be 0. -/
def applyFps (ini : Ini) (c : Config Float) : Except ConfigFault (Config Float) :=
  if ini.natural? "window" "target_fps" = some 0 then .error .noFrameRate
  else .ok { c with targetFps := word ini "window" "target_fps" c.targetFps }

/-- Takes the time scale, which has to be a finite number above zero. -/
def applyScale (ini : Ini) (c : Config Float) : Except ConfigFault (Config Float) :=
  match ini.float? "time" "time_scale" with
  | none => .ok c
  | some x =>
    match ensurePositive "time_scale" x with
    | .ok timeScale => .ok { c with timeScale }
    | .error f => .error (.badTimeScale f)

/-- Takes the path of the image manifest. -/
def applyImages (ini : Ini) (c : Config Float) : Config Float :=
  match ini.get? "assets" "images" with
  | some images => { c with images := some images }
  | none => c

/-- Takes what a settings file says, up to the first value that is not allowed. -/
def apply (ini : Ini) (c : Config Float) : Except ConfigFault Unit × Config Float :=
  let sized := applySize ini c
  match applyFps ini sized with
  | .error f => (.error f, sized)
  | .ok timed =>
    match applyScale ini timed with
    | .error f => (.error f, timed)
    | .ok scaled => (.ok (), applyImages ini scaled)

/-- Loads settings from text. -/
def loadText (c : Config Float) (text : String) : Except ConfigFault Unit × Config Float :=
  match Ini.parse text with
  | .ok ini => apply ini c
  | .error f => (.error (.badText f), c)

/-- Loads settings from the file at the path of the configuration. -/
def loadFile (c : Config Float) (read : FileReader) : Except ConfigFault Unit × Config Float :=
  match read c.path with
  | .error f => (.error (.unreadable c.path f), c)
  | .ok text =>
    match Ini.parse text with
    | .ok ini => apply ini c
    | .error f => (.error (.badFile c.path f), c)

-- ================================================================ saving

/-- The sections of the configuration, with their keys and values. -/
def sections (c : Config Float) : List (String × List (String × String)) :=
  [("window", [("width", toString c.width), ("height", toString c.height),
      ("target_fps", toString c.targetFps)]),
   ("time", [("time_scale", Fault.amount c.timeScale)])] ++
    match c.images with
    | some images => [("assets", [("images", images)])]
    | none => []

/-- Saves the configuration to the file at its path. -/
def save (c : Config Float) (files : FileTree) : Except ConfigFault FileTree :=
  match files.write c.path (Ini.render c.sections) with
  | .ok files => .ok files
  | .error f => .error (.unwritable f)

end Config

end Stagecraft
