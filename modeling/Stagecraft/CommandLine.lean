/-
The command line of the demonstration.

Options take their value after an equals sign or as the next argument, which
may not look like an option itself; no option may be given twice, and there
are no other arguments. A command line that breaks these rules is refused
without a word. Otherwise the run loads the configuration, or goes on with
what it has when that fails, and plays the demonstration.
-/
import Stagecraft.Demo
import Stagecraft.LogFilter
import Stagecraft.Text.Controls

namespace Stagecraft.CommandLine

-- =============================================================== options

structure Options where
  config : Option String := none
  frames : Option Nat := none
  fps : Option Nat := none
  easing : Option String := none
  listEasings : Bool := false
  deriving DecidableEq, Repr

/-- Why no run follows. -/
inductive Stop where
  | usage
  | help
  | version
  deriving DecidableEq, Repr

/-- Sets an option that has not been set. -/
def setOnce {β : Type} (old : Option β) (new : Option β) : Except Stop (Option β) :=
  match old, new with
  | none, some v => .ok (some v)
  | _, _ => .error .usage

/-- A whole number of 32 bits; a minus sign may stand before a zero. -/
def readFps? (value : String) : Option Nat :=
  match value.toList with
  | '-' :: r => readBelow? 1 (String.ofList (if r.head? = some '+' then [] else r))
  | _ => readBelow? UInt32.size value

/-- Gives an option with a value its value. -/
def setValue (o : Options) (name value : String) : Except Stop Options :=
  match name with
  | "--config" => do
    let config ← setOnce o.config (if value = "" then none else some value)
    return { o with config }
  | "--frames" => do
    let frames ← setOnce o.frames (readBelow? UInt64.size value)
    return { o with frames }
  | "--fps" => do
    let fps ← setOnce o.fps (readFps? value)
    return { o with fps }
  | "--easing" => do
    let easing ← setOnce o.easing (some value)
    return { o with easing }
  | _ => .error .usage

/-- Whether an argument looks like an option. -/
def isOption (arg : String) : Bool := arg.startsWith "-" && arg != "-"

/-- The name and the value of an argument with an equals sign. -/
def splitEquals? (arg : String) : Option (String × String) :=
  let cs := arg.toList
  match cs.dropWhile fun c => c != '=' with
  | [] => none
  | _ :: value => some (String.ofList (cs.takeWhile fun c => c != '='), String.ofList value)

/-- Reads the arguments from left to right. -/
def parseFrom (o : Options) : List String → Except Stop Options
  | [] => .ok o
  | "--help" :: _ => .error .help
  | "--version" :: _ => .error .version
  | "--list-easings" :: rest =>
    if o.listEasings then .error .usage else parseFrom { o with listEasings := true } rest
  | ["--"] => .ok o
  | arg :: rest =>
    if arg.startsWith "--" then
      match splitEquals? arg with
      | some (name, value) =>
        match setValue o name value with
        | .ok o => parseFrom o rest
        | .error e => .error e
      | none =>
        match rest with
        | [] => .error .usage
        | value :: rest =>
          if isOption value then .error .usage
          else
            match setValue o arg value with
            | .ok o => parseFrom o rest
            | .error e => .error e
    else if arg.startsWith "-h" then .error .help
    else if arg.startsWith "-V" then .error .version
    else .error .usage

def parse (args : List String) : Except Stop Options := parseFrom {} args

-- ================================================================== texts

def helpText : List String :=
  ["Runs the zeroframe scheduler and tweens without a window.",
   "",
   "Usage: zeroframe [OPTIONS]",
   "",
   "Options:",
   "      --config <PATH>    INI configuration file [default: ./config.ini]",
   "      --frames <FRAMES>  Number of frames to run [default: 180]",
   "      --fps <FPS>        Override the configured frame rate",
   "      --easing <EASING>  Easing used by the demo animation [default: linear]",
   "      --list-easings     Print the available easing names and exit",
   "  -h, --help             Print help",
   "  -V, --version          Print version"]

def versionText : List String := ["zeroframe 0.1.0"]

-- =============================================================== the run

/-- What a run of the program leaves behind. -/
structure Outcome where
  exitCode : Nat
  output : List String := []
  record : Demo.Record Float := #[]

/-- The configuration of a run, and what is said while it is loaded. -/
def configure (o : Options) (read : FileReader) : Config Float × Demo.Record Float :=
  let path := o.config.getD Config.defaultPath
  let (result, config) := (Config.new path : Config Float).loadFile read
  let entry : Demo.Entry Float := match result with
    | .ok _ => .notice (.configLoaded config)
    | .error f => .line (.usingDefaults (.ofConfig f))
  match o.fps with
  | some fps =>
    if 0 < fps then ({ config with targetFps := UInt32.ofNat fps }, #[entry])
    else (config, #[entry])
  | none => (config, #[entry])

/-- The end of a run that failed. -/
def fail (record : Demo.Record Float) (f : Fault Float) : Outcome :=
  { exitCode := 1, record := record.push (.line (.failed f)) }

/-- The run that the options ask for. -/
def play (o : Options) (read : FileReader) : Outcome :=
  let (config, record) := configure o read
  match Easing.parse (o.easing.getD "linear") with
  | .error f => fail record f
  | .ok easing =>
    let (loaded, game) := (Game.new config record : Game Demo.Cue _ Float).loadImages read
    match loaded with
    | .error f => fail game.world.host f
    | .ok _ =>
      match Demo.run game easing (o.frames.getD 180) with
      | .error f => fail game.world.host f
      | .ok game => { exitCode := 0, record := game.world.host }

/-- What the program does with its arguments. -/
def run (args : List String) (read : FileReader) : Outcome :=
  match parse args with
  | .error .usage => { exitCode := 2 }
  | .error .help => { exitCode := 0, output := helpText }
  | .error .version => { exitCode := 0, output := versionText }
  | .ok o =>
    if o.listEasings then { exitCode := 0, output := Easing.all.map Easing.name }
    else play o read

-- ================================================================ the log

/-- The entries that a filter lets through. -/
def shown (filter : String) (r : Demo.Record Float) : List (Demo.Entry Float) :=
  let filter := LogFilter.parse filter
  r.toList.filter fun e => filter.shows e.level e.source e.text

/-- The lines of an entry's text as they are logged, without control sequences. Every
line but the first is indented. -/
def logLines (e : Demo.Entry Float) : List String :=
  let indented := "\n    ".intercalate (e.text.splitOn "\n")
  (Text.dropControls indented).splitOn "\n"

/-- A line without the carriage return at its end. -/
def endLine (line : String) : String :=
  if line.endsWith "\r" then String.ofList line.toList.dropLast else line

/-- The first line of an entry in the log, with its level and source, and without the
addresses of callbacks, which differ from run to run. -/
def entryText (e : Demo.Entry Float) : String :=
  let text := match logLines e with
    | [] => ""
    | [line] => line
    | line :: _ => endLine line
  e.level.name ++ " " ++ e.source ++ ": " ++ withoutAddresses text

end Stagecraft.CommandLine
