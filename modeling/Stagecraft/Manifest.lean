/-
Image manifests: the sizes of images by name.

A manifest is a JSON object whose members are arrays of two numbers, width and
height. A name that is repeated counts once, and its last size is the one.
Images are listed in the order of the slots that their names take.
-/
import Stagecraft.Json.Form
import Stagecraft.Actor
import Stagecraft.Files
import Stagecraft.SlotTable

namespace Stagecraft

/-- Why a manifest could not be used. -/
inductive ManifestFault where
  | malformed
  | unreadable (path : String) (fault : FileFault)

def ManifestFault.text : ManifestFault → String
  | malformed => "expected an object of two-number arrays"
  | unreadable path fault => path ++ ": " ++ fault.text

def Fault.ofManifest {α : Type} (f : ManifestFault) : Fault α := .manifest f.text

/-- Names and sizes as they are written; a name may be repeated. -/
abbrev Manifest := List (String × Size Float)

namespace Manifest

/-- The names, each once. -/
def names (m : Manifest) : List String := (m.map Prod.fst).eraseDups

/-- The number of images. -/
def count (m : Manifest) : Nat := m.names.length

/-- The last size of a name. -/
def find? (m : Manifest) (name : String) : Option (Size Float) :=
  (m.reverse.find? fun e => e.1 == name).map Prod.snd

/-- The images as they are listed, each once. -/
def listing (m : Manifest) : List (String × Size Float) :=
  (SlotTable.ofNames (m.map Prod.fst)).names.filterMap fun name =>
    (m.find? name).map fun size => (name, size)

/-- The size that a member stands for. -/
def size? : Json → Option (Size Float)
  | .array [w, h] => do
    let width ← Json.number? w
    let height ← Json.number? h
    some ⟨width, height⟩
  | _ => none

/-- The name and size of a member. -/
def entry? (member : Option String × Json) : Option (String × Size Float) := do
  let name ← member.1
  let size ← size? member.2
  some (name, size)

def ofJson? : Json → Option Manifest
  | .object members => members.mapM entry?
  | _ => none

def parse (text : String) : Except ManifestFault Manifest :=
  match (Json.read? text).bind ofJson? with
  | some m => .ok m
  | none => .error .malformed

/-- The manifest in a file. -/
def load (read : FileReader) (path : String) : Except ManifestFault Manifest :=
  match read path with
  | .ok text => parse text
  | .error f => .error (.unreadable path f)

end Manifest

end Stagecraft
