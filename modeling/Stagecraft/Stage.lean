/-
The stage: everything that is shared behind handles.

Images and puppets live in tables and are referred to by their place in them.
A place never changes its image or loses it, so whoever holds a handle sees
the size that the image has at that moment. A puppet is what an animation can
move: a record of attributes, a vector, a rectangle or an actor.
-/
import Stagecraft.Actor

namespace Stagecraft

/-- What an animation can move. -/
inductive Puppet (α : Type) where
  | record (m : AttributeMap α)
  | vec2 (v : Vec2 α)
  | vec3 (v : Vec3 α)
  | rect (r : Rect α)
  | actor (a : Actor α)
  deriving Repr

/-- The place of a puppet on the stage. -/
structure PuppetId where
  index : Nat
  deriving DecidableEq, Repr

/-- All images that were ever made, and all puppets. -/
structure Stage (α : Type) where
  images : Array (Image α) := #[]
  puppets : Array (Puppet α) := #[]

variable {α : Type}

-- =============================================================== puppets

namespace Puppet

variable [Scalar α]

/-- The value of an attribute, images having the sizes that `sizeOf` says. -/
def attr? (sizeOf : ImageId → Size α) (p : Puppet α) (name : String) : Option (AttrValue α) :=
  match p with
  | record m => AttributeMap.attr? m name
  | vec2 v => v.attr? name
  | vec3 v => v.attr? name
  | rect r => r.attr? name
  | actor a => a.attr? (sizeOf a.image) name

def setAttr (sizeOf : ImageId → Size α) (p : Puppet α) (name : String) (value : AttrValue α) :
    Puppet α :=
  match p with
  | record m => record (AttributeMap.setAttr m name value)
  | vec2 v => vec2 (v.setAttr name value)
  | vec3 v => vec3 (v.setAttr name value)
  | rect r => rect (r.setAttr name value)
  | actor a => actor (a.setAttr (sizeOf a.image) name value)

end Puppet

-- ============================================================= the stage

namespace Stage

/-- The image of a handle. -/
def image? (s : Stage α) (i : ImageId) : Option (Image α) := s.images[i.index]?

/-- The size that every holder of the handle sees. -/
def sizeOf [Scalar α] (s : Stage α) (i : ImageId) : Size α :=
  match s.image? i with
  | some im => im.size
  | none => ⟨0.0, 0.0⟩

/-- The name of the image of a handle. -/
def nameOf (s : Stage α) (i : ImageId) : String :=
  match s.image? i with
  | some im => im.name
  | none => ""

/-- A new image, and its handle. -/
def addImage (s : Stage α) (im : Image α) : ImageId × Stage α :=
  (⟨s.images.size⟩, { s with images := s.images.push im })

/-- Gives an image another size. -/
def resize (s : Stage α) (i : ImageId) (size : Size α) : Stage α :=
  { s with images := s.images.modify i.index fun im => { im with size } }

def puppet? (s : Stage α) (p : PuppetId) : Option (Puppet α) := s.puppets[p.index]?

/-- A new puppet, and its handle. -/
def addPuppet (s : Stage α) (p : Puppet α) : PuppetId × Stage α :=
  (⟨s.puppets.size⟩, { s with puppets := s.puppets.push p })

def setPuppet (s : Stage α) (i : PuppetId) (p : Puppet α) : Stage α :=
  { s with puppets := s.puppets.setIfInBounds i.index p }

variable [Scalar α]

/-- The value of an attribute of a puppet. -/
def attr? (s : Stage α) (i : PuppetId) (name : String) : Option (AttrValue α) :=
  (s.puppet? i).bind fun p => p.attr? s.sizeOf name

/-- Gives an attribute of a puppet a value. -/
def setAttr (s : Stage α) (i : PuppetId) (name : String) (value : AttrValue α) : Stage α :=
  match s.puppet? i with
  | some p => s.setPuppet i (p.setAttr s.sizeOf name value)
  | none => s

theorem images_setAttr (s : Stage α) (i : PuppetId) (name : String) (v : AttrValue α) :
    (s.setAttr i name v).images = s.images := by
  unfold setAttr; split <;> rfl

end Stage

end Stagecraft
