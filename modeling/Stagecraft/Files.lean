/-
A tree of text files.

A path is cut at its slashes into steps, which are taken from the root if the
path begins with a slash, and else from the directory in which the program
runs: an empty step and a single dot stay, a double dot goes up, and any other
step has to find a directory of that name. So every step before the last one is
tried, even when a double dot takes it back. Only the last step may find a
file, or a place for one. The directories are those on the way to the starting
one and to the files, and those that every system has. Of the files that every
system has there is the one that is always empty, whatever is written to it.
The empty path names nothing.
-/
namespace Stagecraft

/-- Why a file could not be read or written. -/
inductive FileFault where
  | notFound
  | notDirectory
  | isDirectory
  | nameTooLong
  /-- A path holds the character 0. -/
  | badPath
  /-- Any other reason, in the system's words. -/
  | other (reason : String)
  deriving DecidableEq, Repr

def FileFault.text : FileFault → String
  | notFound => "No such file or directory (os error 2)"
  | notDirectory => "Not a directory (os error 20)"
  | isDirectory => "Is a directory (os error 21)"
  | nameTooLong => "File name too long (os error 36)"
  | badPath => "file name contained an unexpected NUL byte"
  | other reason => reason

/-- What reading a path gives. -/
abbrev FileReader := String → Except FileFault String

/-- The names on the way from the root to a place. -/
abbrev Place := List String

namespace Place

/-- The directory above, which for the root is the root. -/
def up (p : Place) : Place := p.dropLast

/-- Whether one place lies properly above another one. -/
def above (p q : Place) : Bool := p.isPrefixOf q && p != q

/-- Where a path leads, whatever is there; `start` is where the program runs. -/
def ofPath (start : Place) (path : String) : Place :=
  (path.splitOn "/").foldl
    (fun p name => if name = "" ∨ name = "." then p else if name = ".." then p.up else p ++ [name])
    (if path.startsWith "/" then [] else start)

/-- The directories below the root that every system has. -/
def common : List String :=
  ["bin", "boot", "dev", "etc", "home", "lib", "media", "mnt", "opt", "proc", "root", "run",
    "sbin", "srv", "sys", "tmp", "usr", "var"]

/-- The directories that every system has. -/
def isCommon : Place → Bool
  | [] => true
  | [name] => common.contains name
  | ["usr", name] => ["bin", "include", "lib", "local", "sbin", "share", "src"].contains name
  | ["var", name] => ["cache", "lib", "local", "log", "mail", "opt", "spool",
      "tmp"].contains name
  | ["dev", name] => ["pts", "shm"].contains name
  | _ => false

/-- The file that is always empty. -/
def null : Place := ["dev", "null"]

end Place

/-- Files by their places. -/
structure FileTree where
  files : List (Place × String) := []
  /-- The directory in which the program runs. -/
  start : Place := ["home", "here"]

namespace FileTree

def empty : FileTree := {}

def isDirectory (t : FileTree) (p : Place) : Bool :=
  p.isCommon || p.isPrefixOf t.start || t.files.any fun f => p.above f.1

def lookup? (t : FileTree) (p : Place) : Option String :=
  if p = .null then some "" else (t.files.find? fun f => f.1 == p).map Prod.snd

-- ============================================================== resolving

/-- The most bytes that a name may have. -/
def maxName : Nat := 255

/-- The most bytes that a path may have. -/
def maxPath : Nat := 4095

/-- Whether a step needs no directory of its name. -/
def isDots (name : String) : Bool := name == "" || name == "." || name == ".."

/-- The place of a name in a directory. -/
def child (p : Place) (name : String) : Except FileFault Place :=
  if maxName < name.utf8ByteSize then .error .nameTooLong else .ok (p ++ [name])

/-- Takes a step to a directory. -/
def enter (t : FileTree) (p : Place) (name : String) : Except FileFault Place :=
  if name = ".." then .ok p.up
  else if isDots name then .ok p
  else do
    let p ← child p name
    if t.isDirectory p then return p
    else if (t.lookup? p).isSome then throw .notDirectory
    else throw .notFound

/-- The directory that a run of steps leads to. -/
def enterAll (t : FileTree) (p : Place) (names : List String) : Except FileFault Place :=
  names.foldlM t.enter p

/-- Where a path starts, and its steps, unless it is no path. -/
def steps (t : FileTree) (path : String) : Except FileFault (Place × List String) :=
  if path.any fun c => c.toNat == 0 then .error .badPath
  else if path = "" then .error .notFound
  else if maxPath < path.utf8ByteSize then .error .nameTooLong
  else .ok (if path.startsWith "/" then [] else t.start, path.splitOn "/")

-- ==================================================== reading and writing

/-- Reads a file. A slash at the end asks for a directory. -/
def read (t : FileTree) : FileReader := fun path => do
  let (start, names) ← t.steps path
  let directory ← t.enterAll start names.dropLast
  let name := names.getLast?.getD ""
  if isDots name then throw .isDirectory
  else
    let p ← child directory name
    match t.lookup? p with
    | some text => return text
    | none => throw (if t.isDirectory p then .isDirectory else .notFound)

/-- The tree with a file, whatever was there. -/
def putAt (t : FileTree) (p : Place) (text : String) : FileTree :=
  { t with files := (p, text) :: t.files.filter fun f => f.1 != p }

/-- The tree with a file where a path leads. -/
def put (t : FileTree) (path text : String) : FileTree := t.putAt (.ofPath t.start path) text

/-- Writes a file into a directory that is there. A name with a slash behind it is
refused before it is looked for. -/
def write (t : FileTree) (path text : String) : Except FileFault FileTree := do
  let (start, names) ← t.steps path
  let slashes := names.reverse.takeWhile (· == "")
  let names := names.take (names.length - slashes.length)
  let directory ← t.enterAll start names.dropLast
  let name := names.getLast?.getD ""
  if isDots name ∨ slashes ≠ [] then throw .isDirectory
  else
    let p ← child directory name
    if t.isDirectory p then throw .isDirectory else return t.putAt p text

end FileTree

end Stagecraft
