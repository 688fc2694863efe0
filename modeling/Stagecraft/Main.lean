/-
The program: reads its arguments and the files that they name, and prints
what the run leaves behind. The log goes to standard error.
-/
import Stagecraft.CommandLine

namespace Stagecraft.CommandLine

/-- What reading a file of the system gives. -/
def readPath (path : String) : IO (Except FileFault String) := do
  try
    return .ok (← IO.FS.readFile path)
  catch e =>
    match e with
    | .noFileOrDirectory .. => return .error .notFound
    | .inappropriateType _ 20 _ => return .error .notDirectory
    | .inappropriateType .. => return .error .isDirectory
    | .invalidArgument _ 36 _ => return .error .nameTooLong
    | e => return .error (.other (toString e))

/-- A reader of the files that have been read. -/
def readerOf (files : List (String × Except FileFault String)) : FileReader := fun path =>
  match files.find? fun f => f.1 == path with
  | some f => f.2
  | none => .error .notFound

/-- Reads the configuration, and then the manifest that it names. -/
def readFiles (o : Options) : IO (List (String × Except FileFault String)) := do
  let path := o.config.getD Config.defaultPath
  let files := [(path, ← readPath path)]
  let (config, _) := configure o (readerOf files)
  match config.images with
  | some images => return files ++ [(images, ← readPath images)]
  | none => return files

/-- An entry as it stands in standard error. -/
def errorText (e : Demo.Entry Float) : String :=
  "[" ++ e.level.name ++ " " ++ e.source ++ "] " ++ "\n".intercalate (logLines e)

end Stagecraft.CommandLine

open Stagecraft in
def main (args : List String) : IO UInt32 := do
  let files ← match CommandLine.parse args with
    | .ok o => CommandLine.readFiles o
    | .error _ => pure []
  let outcome := CommandLine.run args (CommandLine.readerOf files)
  for line in outcome.output do
    IO.println line
  let filter := (← IO.getEnv "RUST_LOG").getD "info"
  for entry in CommandLine.shown filter outcome.record do
    IO.eprintln (CommandLine.errorText entry)
  return UInt32.ofNat outcome.exitCode
