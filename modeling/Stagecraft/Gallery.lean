/-
The gallery: which image a name stands for.

Registering a name that is known resizes its image, so that everyone who
holds it sees the new size; registering any other name makes a new image.
Clearing the gallery forgets the names, and the images stay with those who
hold them.
-/
import Stagecraft.Stage

namespace Stagecraft

/-- Image handles by name, each name once. -/
structure Gallery where
  entries : List (String × ImageId) := []
  deriving Repr

namespace Gallery

variable {α : Type}

def empty : Gallery := {}

def find? (g : Gallery) (name : String) : Option ImageId :=
  (g.entries.find? fun p => p.1 == name).map Prod.snd

def contains (g : Gallery) (name : String) : Bool := (g.find? name).isSome

def get (g : Gallery) (name : String) : Except (Fault α) ImageId :=
  match g.find? name with
  | some i => .ok i
  | none => .error (.unknownImage name)

def size (g : Gallery) : Nat := g.entries.length

/-- The names in order. -/
def names (g : Gallery) : List String :=
  (g.entries.map Prod.fst).mergeSort fun a b => decide (a ≤ b)

/-- Gives the name an image of this size, and answers its handle. -/
def register (g : Gallery) (s : Stage α) (name : String) (size : Size α) :
    ImageId × Gallery × Stage α :=
  match g.find? name with
  | some i => (i, g, s.resize i size)
  | none =>
    let (i, s) := s.addImage ⟨name, size⟩
    (i, ⟨g.entries ++ [(name, i)]⟩, s)

/-- Registers all entries, one after the other. -/
def registerAll (g : Gallery) (s : Stage α) (entries : List (String × Size α)) :
    Gallery × Stage α :=
  entries.foldl (fun (g, s) (name, size) => (g.register s name size).2) (g, s)

/-- Resizes the image of a name. -/
def resize (g : Gallery) (s : Stage α) (name : String) (size : Size α) :
    Except (Fault α) (Stage α) :=
  (g.get name).map fun i => s.resize i size

-- ================================================================ actors

/-- An actor with the image of a name. -/
def newActor [Scalar α] (g : Gallery) (s : Stage α) (name : String) :
    Except (Fault α) (Actor α) :=
  (g.get name).map fun i => .new i (s.sizeOf i)

/-- The actor with the image of another name; its anchor stays where it is. -/
def rename (g : Gallery) (a : Actor α) (name : String) : Except (Fault α) (Actor α) :=
  (g.get name).map fun i => { a with image := i }

end Gallery

end Stagecraft
