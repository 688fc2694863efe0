/-
The laws of the attributes of rectangles and actors, in exact arithmetic.

An animation reads an attribute when it begins and writes it from then on.
That it ends where it should needs no more than this: a value of the shape
that was read is read back, writing back what was read does nothing, the
last value counts, and a value that does not suit the name does nothing
either (`Lawful`). All of it holds for every name because every name has a
part, and parts are lenses (`lawful_of_parts`).

# Sizes

An actor has the size of its image, and no attribute of an actor is the
image. So the size that the actor is measured with is the same before and
after, whatever sizes images have, and the laws of a part of the box, which
are about one size, apply.
-/
import Stagecraft.Proofs.Attributes.Spelling
import Stagecraft.Proofs.Attributes.Tables

namespace Stagecraft

variable {K : Type}

-- ============================================================== the laws

/-- What it takes for named attributes to be animated. -/
structure Lawful {β : Type} (attr? : β → String → Option (AttrValue K))
    (setAttr : β → String → AttrValue K → β) : Prop where
  /-- A value of the shape of the attribute is read back. -/
  reads_back (b : β) (name : String) (s v : AttrValue K) (known : attr? b name = some s)
    (shape : s.sameShape v = true) : attr? (setAttr b name v) name = some v
  /-- The value that the attribute has already changes nothing. -/
  keeps (b : β) (name : String) (s : AttrValue K) (known : attr? b name = some s) :
    setAttr b name s = b
  /-- A value of the shape of the attribute makes up for any value before it. -/
  last_counts (b : β) (name : String) (s v w : AttrValue K) (known : attr? b name = some s)
    (shape : s.sameShape w = true) : setAttr (setAttr b name v) name w = setAttr b name w
  /-- A value of another shape changes nothing. -/
  refuses (b : β) (name : String) (s v : AttrValue K) (known : attr? b name = some s)
    (shape : s.sameShape v = false) : setAttr b name v = b
  /-- A value for a name that is not known changes nothing. -/
  ignores (b : β) (name : String) (v : AttrValue K) (unknown : attr? b name = none) :
    setAttr b name v = b

/-- Attributes that stand for parts are lawful. -/
theorem lawful_of_parts {β : Type} {attr? : β → String → Option (AttrValue K)}
    {setAttr : β → String → AttrValue K → β} (part? : String → Option (Part β K))
    (hattr : ∀ b name, attr? b name = (part? name).map (Part.read b))
    (hset : ∀ b name v, setAttr b name v = (part? name).elim b fun p => p.write b v) :
    Lawful attr? setAttr := by
  have hpart {b : β} {name : String} {s : AttrValue K} (known : attr? b name = some s) :
      ∃ p, part? name = some p ∧ s = p.read b := by
    obtain ⟨p, hp, hread⟩ := Option.map_eq_some_iff.1 ((hattr b name).symm.trans known)
    exact ⟨p, hp, hread.symm⟩
  constructor
  case reads_back =>
      rintro b name s v known shape
      obtain ⟨p, hp, rfl⟩ := hpart known
      rw [hattr, hset, hp]
      exact congrArg some (Part.read_write shape)
  case keeps =>
      rintro b name s known
      obtain ⟨p, hp, rfl⟩ := hpart known
      rw [hset, hp]
      exact p.write_read b
  case last_counts =>
      rintro b name s v w known shape
      obtain ⟨p, hp, rfl⟩ := hpart known
      rw [hset, hset, hset, hp]
      exact Part.write_write shape v
  case refuses =>
      rintro b name s v known shape
      obtain ⟨p, hp, rfl⟩ := hpart known
      rw [hset, hp]
      exact Part.write_of_other_shape shape
  case ignores =>
      rintro b name v unknown
      have hp : part? name = none := Option.map_eq_none_iff.1 ((hattr b name).symm.trans unknown)
      rw [hset, hp]
      rfl

variable [Field K] [LinearOrder K] [FloorRing K]

-- ============================================================ rectangles

namespace Rect

theorem lawful : Lawful (attr? (α := K)) setAttr := lawful_of_parts part? attr?_eq setAttr_eq

/-- A spot is moved, with the rectangle, and never pulled away from it. -/
theorem size_write_spotPart (r : Rect K) (spot : Spot K) (v : AttrValue K) :
    ((spotPart spot).write r v).size = r.size := by
  cases spot with
  | column x | row y =>
      cases v with
      | scalar k => rfl
      | array ks => rfl
  | point p =>
      match v with
      | .array [k, l] => rfl
      | .scalar _ | .array [] | .array [_] | .array (_ :: _ :: _ :: _) => rfl

theorem size_setAttr (r : Rect K) {name : String} (v : AttrValue K)
    (hname : name ∉ ["width", "height", "size"]) : (r.setAttr name v).size = r.size := by
  have hpart : part? (K := K) name = (Spot.find? name).map spotPart := by
    unfold part?
    split
    case h_4 => rfl
    all_goals exact absurd hname (by decide)
  rw [setAttr_eq, hpart]
  cases Spot.find? (K := K) name with
  | none => rfl
  | some spot => exact size_write_spotPart r spot v

theorem width_setAttr (r : Rect K) {name : String} (v : AttrValue K)
    (hname : name ∉ ["width", "size"]) : (r.setAttr name v).width = r.width := by
  by_cases hheight : name = "height"
  · subst hheight
    cases v with
    | scalar k => rfl
    | array ks => rw [setAttr_eq]; rfl
  · exact congrArg Prod.fst (size_setAttr r v (by simp_all))

theorem height_setAttr (r : Rect K) {name : String} (v : AttrValue K)
    (hname : name ∉ ["height", "size"]) : (r.setAttr name v).height = r.height := by
  by_cases hwidth : name = "width"
  · subst hwidth
    cases v with
    | scalar k => rfl
    | array ks => rw [setAttr_eq]; rfl
  · exact congrArg Prod.snd (size_setAttr r v (by simp_all))

theorem attr?_spelled (r : Rect K) (p : AnchorPoint) {before cs behind : List Char}
    (hbefore : ∀ c ∈ before, Text.isBlank c = true) (hbehind : ∀ c ∈ behind, Text.isBlank c = true)
    (hcs : cs.map Char.toLower = p.name.toList) :
    r.attr? (String.ofList (before ++ cs ++ behind)) = some (.pair (r.anchor p)) := by
  rw [attr?_eq, part?_of_point (AnchorPoint.find?_spelled p hbefore hbehind hcs)]
  rfl

end Rect

-- ================================================================ actors

namespace Actor

theorem lawful (sizeOf : ImageId → Size K) :
    Lawful (fun a : Actor K => a.attr? (sizeOf a.image))
      (fun a name v => a.setAttr (sizeOf a.image) name v) := by
  have hlaws (s : Size K) : Lawful (fun a : Actor K => a.attr? s) (fun a => a.setAttr s) :=
    lawful_of_parts (part? s) (attr?_eq s) (setAttr_eq s)
  -- the laws of one size, with the size measured anew after each change
  refine ⟨fun a name s v known shape => ?_, fun a => (hlaws _).keeps a,
    fun a name s v w known shape => ?_, fun a => (hlaws _).refuses a,
    fun a => (hlaws _).ignores a⟩
  · have hback := (hlaws (sizeOf a.image)).reads_back a name s v known shape
    simpa only [image_setAttr] using hback
  · have hlast := (hlaws (sizeOf a.image)).last_counts a name s v w known shape
    simpa only [image_setAttr] using hlast

theorem attr?_spelled (s : Size K) (a : Actor K) (p : AnchorPoint) {before cs behind : List Char}
    (hbefore : ∀ c ∈ before, Text.isBlank c = true) (hbehind : ∀ c ∈ behind, Text.isBlank c = true)
    (hcs : cs.map Char.toLower = p.name.toList) :
    a.attr? s (String.ofList (before ++ cs ++ behind)) = some (.pair (a.point s p)) := by
  rw [attr?_eq, part?_of_point s (AnchorPoint.find?_spelled p hbefore hbehind hcs)]
  rfl

end Actor

-- ============================================================== the boxes

variable (K) in
/-- What is promised of the attributes of rectangles and actors. -/
structure AttributesAreParts : Prop where
  rect : Lawful (Rect.attr? (α := K)) Rect.setAttr
  /-- Whatever sizes images have. -/
  actor (sizeOf : ImageId → Size K) :
    Lawful (fun a : Actor K => a.attr? (sizeOf a.image))
      (fun a name v => a.setAttr (sizeOf a.image) name v)
  rect_width (r : Rect K) (name : String) (v : AttrValue K) (hname : name ∉ ["width", "size"]) :
    (r.setAttr name v).width = r.width
  rect_height (r : Rect K) (name : String) (v : AttrValue K) (hname : name ∉ ["height", "size"]) :
    (r.setAttr name v).height = r.height
  /-- The size of an actor is that of its image. -/
  actor_size (sizeOf : ImageId → Size K) (a : Actor K) (s : Size K) (name : String)
    (v : AttrValue K) : sizeOf (a.setAttr s name v).image = sizeOf a.image
  /-- An anchor point is known in every spelling of its name. -/
  spelled (p : AnchorPoint) (before cs behind : List Char)
    (hbefore : ∀ c ∈ before, Text.isBlank c = true) (hbehind : ∀ c ∈ behind, Text.isBlank c = true)
    (hcs : cs.map Char.toLower = p.name.toList) :
    (∀ r : Rect K,
      r.attr? (String.ofList (before ++ cs ++ behind)) = some (.pair (r.anchor p))) ∧
    ∀ (s : Size K) (a : Actor K),
      a.attr? s (String.ofList (before ++ cs ++ behind)) = some (.pair (a.point s p))

/-- The attributes of rectangles and actors are parts of them: what is written is read back,
and only what shares an axis or a size with it changes. -/
theorem attributes_are_parts : AttributesAreParts K where
  rect := Rect.lawful
  actor := Actor.lawful
  rect_width r _ v := r.width_setAttr v
  rect_height r _ v := r.height_setAttr v
  actor_size sizeOf a s name v := congrArg sizeOf (a.image_setAttr s name v)
  spelled p _ _ _ hbefore hbehind hcs :=
    ⟨fun r => r.attr?_spelled p hbefore hbehind hcs,
      fun s a => a.attr?_spelled s p hbefore hbehind hcs⟩

end Stagecraft
