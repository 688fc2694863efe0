/-
Actors that share images.

An actor keeps a handle, and the size that it has is looked up behind this
handle at every access. So the operations on images never touch an actor, and
they reach it through its handle alone: what an operation does behind a
handle is seen by all who hold it, at once, and by no one else.

# One name, one handle, until the names are forgotten

Actors that were given the image of a name hold the handle that the name had.
As long as the names are not forgotten the name keeps it (`Grows`), so who is
given the same name later holds the same handle, and sees the same size ever
after, whatever becomes of the name. Forgetting the names leaves the images
behind handles that no name leads to, and no operation ever reaches those
(`Gallery.Retired`).
-/
import Stagecraft.World
import Stagecraft.Proofs.Frame.QueueCall
import Stagecraft.Proofs.Images.Handles

namespace Stagecraft

/-- A world, and the actors that get their images from it. -/
structure Troupe (κ σ : Type) where
  world : World κ σ Float
  actors : List (Actor Float)

namespace Troupe

variable {κ σ : Type}

-- ============================================================= operations

/-- What is done with images and actors. -/
inductive Op where
  | register (name : String) (size : Size Float)
  | resize (name : String) (size : Size Float)
  | clear
  | load (manifest : String)
  /-- A new actor with the image of a name. -/
  | enter (name : String)
  | rename (actor : Nat) (name : String)
  | move (actor : Nat) (pos : Float × Float)

/-- Nobody, with no names. -/
def start (w : World κ σ Float) : Troupe κ σ := ⟨{ w with gallery := some .empty }, []⟩

def gallery (t : Troupe κ σ) : Gallery := t.world.galleryOrNew

def stage (t : Troupe κ σ) : Stage Float := t.world.stage

/-- The handle that an actor keeps. -/
def image? (t : Troupe κ σ) (actor : Nat) : Option ImageId := t.actors[actor]?.map Actor.image

/-- The size that an actor sees now. -/
def size? (t : Troupe κ σ) (actor : Nat) : Option (Size Float) :=
  (t.image? actor).map t.stage.sizeOf

/-- The top left corner that an actor has now. -/
def corner? (t : Troupe κ σ) (actor : Nat) : Option (Float × Float) :=
  t.actors[actor]?.map fun a => a.topLeft (t.stage.sizeOf a.image)

namespace Op

/-- Whether the operation is one on images. -/
def onImages : Op → Bool
  | register .. | resize .. | clear | load _ => true
  | enter _ | rename .. | move .. => false

/-- The actor that an operation gives an image, and the name of the image. -/
def given? (t : Troupe κ σ) : Op → Option (Nat × String)
  | enter name => if t.gallery.contains name then some (t.actors.length, name) else none
  | rename k name =>
    if k < t.actors.length ∧ t.gallery.contains name = true then some (k, name) else none
  | _ => none

/-- The actors after the operation; what fails changes none. -/
def actors (t : Troupe κ σ) : Op → List (Actor Float)
  | enter name => t.actors ++ (t.gallery.newActor t.stage name).toOption.toList
  | rename k name =>
    t.actors.modify k fun a => (t.gallery.rename a name).toOption.getD a
  | move k pos => t.actors.modify k fun a => a.setPos pos
  | _ => t.actors

variable [Journal (Notice κ Float) σ]

/-- The world after the operation. -/
def world (t : Troupe κ σ) : Op → World κ σ Float
  | register name size => (t.world.registerImage name size).2
  | resize name size => (t.world.resizeImage name size).2
  | clear => { t.world with gallery := some .empty }
  | load text => (t.world.loadManifestText text).2
  | _ => t.world

def run (t : Troupe κ σ) (op : Op) : Troupe κ σ := ⟨op.world t, op.actors t⟩

end Op

variable [Journal (Notice κ Float) σ] {t : Troupe κ σ}

/-- A list of operations, one after the other. -/
def run (t : Troupe κ σ) (ops : List Op) : Troupe κ σ := ops.foldl Op.run t

/-- No operation of the list gives the actor an image. -/
def Keeps (actor : Nat) (t : Troupe κ σ) : List Op → Prop
  | [] => True
  | op :: ops => (∀ name, op.given? t ≠ some (actor, name)) ∧ Keeps actor (op.run t) ops

theorem run_append (t : Troupe κ σ) (ops more : List Op) :
    t.run (ops ++ more) = (t.run ops).run more := List.foldl_append

-- =========================================================== one operation

omit [Journal (Notice κ Float) σ] in
theorem grows_resizeImage (w : World κ σ Float) (name : String) (size : Size Float) :
    Gallery.Grows w.galleryOrNew (w.resizeImage name size).2.galleryOrNew w.stage
      (w.resizeImage name size).2.stage := by
  unfold World.resizeImage
  rw [Gallery.resize_eq]
  cases hname : w.galleryOrNew.contains name with
  | true =>
      have hgrows := Gallery.grows_register w.galleryOrNew w.stage name size
      rw [Gallery.register_of_contains hname] at hgrows
      exact hgrows
  | false => exact .refl _ _

theorem grows_loadManifestText (w : World κ σ Float) (text : String) :
    Gallery.Grows w.galleryOrNew (w.loadManifestText text).2.galleryOrNew w.stage
      (w.loadManifestText text).2.stage := by
  unfold World.loadManifestText
  cases Manifest.parse text with
  | error f => exact .refl _ _
  | ok m =>
      unfold World.registerManifest
      dsimp only
      rw [World.foldl_note]
      exact Gallery.grows_registerAll w.galleryOrNew w.stage m

/-- Only forgetting the names takes a name its handle. -/
theorem grows_run (t : Troupe κ σ) {op : Op} (hop : op ≠ .clear) :
    Gallery.Grows t.gallery (op.run t).gallery t.stage (op.run t).stage := by
  cases op with
  | register name size => exact Gallery.grows_register t.gallery t.stage name size
  | resize name size => exact grows_resizeImage t.world name size
  | clear => exact absurd rfl hop
  | load text => exact grows_loadManifestText t.world text
  | enter name | rename k name | move k pos => exact .refl _ _

/-- An actor that is given the image of a name has the handle of the name. -/
theorem image?_given {op : Op} {k : Nat} {name : String}
    (h : op.given? t = some (k, name)) :
    (op.run t).image? k = t.gallery.find? name
      ∧ ∃ i, t.gallery.find? name = some i := by
  cases op with
  | enter name' =>
      obtain ⟨hknown, hsame⟩ := Option.ite_none_right_eq_some.1 h
      cases hsame
      obtain ⟨i, hi⟩ := Option.isSome_iff_exists.1 hknown
      refine ⟨?_, i, hi⟩
      show (t.actors ++ _)[t.actors.length]?.map Actor.image = _
      rw [Gallery.toOption_newActor, hi]
      simp [Actor.new]
  | rename k' name' =>
      obtain ⟨⟨hk, hknown⟩, hsame⟩ := Option.ite_none_right_eq_some.1 h
      cases hsame
      obtain ⟨i, hi⟩ := Option.isSome_iff_exists.1 hknown
      refine ⟨?_, i, hi⟩
      show (t.actors.modify k _)[k]?.map Actor.image = _
      simp only [Gallery.toOption_rename, hi]
      simp [hk]
  | _ => cases h

/-- Changing an actor in what is not its image leaves all handles. -/
theorem map_image_modify {actors : List (Actor Float)} {j k : Nat} {f : Actor Float → Actor Float}
    (hf : j = k → ∀ a, actors[k]? = some a → (f a).image = a.image) :
    (actors.modify j f)[k]?.map Actor.image = actors[k]?.map Actor.image := by
  rw [List.getElem?_modify]
  cases ha : actors[k]? with
  | none => rfl
  | some a =>
      refine congrArg some ?_
      dsimp only
      split
      next hjk => exact hf hjk a ha
      next => rfl

/-- An actor keeps its handle unless the operation gives it one. -/
theorem image?_run {op : Op} {k : Nat} (h : ∀ name, op.given? t ≠ some (k, name)) :
    (op.run t).image? k = t.image? k := by
  cases op with
  | enter name =>
      show (t.actors ++ _)[k]?.map Actor.image = t.actors[k]?.map Actor.image
      rw [Gallery.toOption_newActor]
      cases hfind : t.gallery.find? name with
      | none => simp
      | some i =>
          have hk : k ≠ t.actors.length := by
            rintro rfl
            exact h name (if_pos (Option.isSome_iff_exists.2 ⟨i, hfind⟩))
          have hnone : [Actor.new i (t.stage.sizeOf i)][k - t.actors.length]? = none
              ∨ k < t.actors.length := by
            rw [List.getElem?_eq_none_iff, List.length_singleton]
            omega
          rw [Option.map_some, Option.toList_some, List.getElem?_append]
          split
          next => rfl
          next hlate =>
            rw [hnone.resolve_right hlate, List.getElem?_eq_none (Nat.not_lt.1 hlate)]
  | rename j name =>
      refine map_image_modify ?_
      rintro rfl a ha
      rw [Gallery.toOption_rename]
      cases hfind : t.gallery.find? name with
      | none => rfl
      | some i =>
          have hj : j < t.actors.length := (List.getElem?_eq_some_iff.1 ha).1
          exact absurd (if_pos ⟨hj, Option.isSome_iff_exists.2 ⟨i, hfind⟩⟩) (h name)
  | move j pos => exact map_image_modify fun _ _ _ => rfl
  | _ => rfl

-- ===================================================================== runs

/-- An actor that is given no other image keeps its handle. -/
theorem Keeps.image?_run {k : Nat} {ops : List Op} (h : Keeps k t ops) :
    (t.run ops).image? k = t.image? k := by
  induction ops generalizing t with
  | nil => rfl
  | cons op ops ih => exact (ih h.2).trans (Troupe.image?_run h.1)

theorem Keeps.append {k : Nat} {ops more : List Op} (h : Keeps k t (ops ++ more)) :
    Keeps k t ops ∧ Keeps k (t.run ops) more := by
  induction ops generalizing t with
  | nil => exact ⟨trivial, h⟩
  | cons op ops ih => exact ⟨⟨h.1, (ih h.2).1⟩, (ih h.2).2⟩

/-- As long as no names are forgotten, names keep their handles. -/
theorem find?_run {ops : List Op} (h : Op.clear ∉ ops) {name : String} {i : ImageId}
    (hi : t.gallery.find? name = some i) : (t.run ops).gallery.find? name = some i := by
  induction ops generalizing t with
  | nil => exact hi
  | cons op ops ih =>
      rw [List.mem_cons, not_or] at h
      exact ih h.2 ((grows_run t (Ne.symm h.1)).handles hi)

/-- What no name leads to stays as it is. -/
theorem retired_run {i : ImageId} (h : t.gallery.Retired t.stage i) (ops : List Op) :
    (t.run ops).stage.image? i = t.stage.image? i := by
  induction ops generalizing t with
  | nil => rfl
  | cons op ops ih =>
      by_cases hop : op = .clear
      · subst hop
        exact ih ⟨h.1, fun _ => nofun⟩
      · obtain ⟨hretired, hsame⟩ := (grows_run t hop).retired h
        exact (ih hretired).trans hsame

/-- The images fit their names, and whoever has a handle has an image behind it. -/
structure Sound (t : Troupe κ σ) : Prop where
  fits : t.gallery.Fits t.stage
  images (k : Nat) (i : ImageId) (hi : t.image? k = some i) : (t.stage.image? i).isSome = true

omit [Journal (Notice κ Float) σ] in
theorem sound_start (w : World κ σ Float) : (start w).Sound :=
  ⟨Gallery.fits_empty _, fun _ _ => nofun⟩

theorem Sound.run_op (h : t.Sound) (op : Op) : (op.run t).Sound := by
  by_cases hop : op = .clear
  · subst hop
    exact ⟨Gallery.fits_empty _, h.images⟩
  have hgrows := grows_run t hop
  refine ⟨hgrows.fits h.fits, fun k i hi => hgrows.images ?_⟩
  by_cases hgiven : ∃ name, op.given? t = some (k, name)
  · obtain ⟨name, hname⟩ := hgiven
    rw [(image?_given hname).1] at hi
    obtain ⟨im, him, -⟩ := h.fits.image? hi
    exact Option.isSome_iff_exists.2 ⟨im, him⟩
  · rw [image?_run (not_exists.1 hgiven)] at hi
    exact h.images k i hi

theorem Sound.run (h : t.Sound) (ops : List Op) : (t.run ops).Sound := by
  induction ops generalizing t with
  | nil => exact h
  | cons op ops ih => exact ih (h.run_op op)

-- ================================================================ one image

/-- Giving a name a size is seen by those who hold the handle of the name, and by no
one else. -/
theorem Sound.size?_resized (h : t.Sound) {op : Op} {name : String} {size : Size Float}
    (hop : op = .register name size ∨ op = .resize name size) {k : Nat} {i : ImageId}
    (hi : t.image? k = some i) :
    (op.run t).size? k
      = some (if t.gallery.find? name = some i then size else t.stage.sizeOf i) := by
  obtain ⟨im, him⟩ := Option.isSome_iff_exists.1 (h.images k i hi)
  have hregister := Gallery.image?_register (g := t.gallery) him name size
  have hkeeps : (op.run t).image? k = some i := by
    rw [← hi]
    rcases hop with rfl | rfl <;> rfl
  have himage : (op.run t).stage.image? i
      = some (if t.gallery.find? name = some i then { im with size } else im) := by
    rcases hop with rfl | rfl
    · exact hregister
    · show (t.world.resizeImage name size).2.stage.image? i = _
      unfold World.resizeImage
      rw [Gallery.resize_eq]
      cases hname : t.world.galleryOrNew.contains name with
      | true => exact hregister
      | false =>
          have hnone : t.gallery.find? name = none :=
            Option.isSome_eq_false_iff.1 hname |> Option.isNone_iff_eq_none.1
          rw [hnone, if_neg nofun]
          exact him
  unfold size?
  rw [hkeeps, Option.map_some, Stage.sizeOf_eq himage, Stage.sizeOf_eq him]
  split <;> rfl

/-- Who is given the image of a name before the names are forgotten holds the handle
that others were given under this name. -/
theorem image?_shared {name : String} {k l : Nat} {first second : Op} {between after : List Op}
    (hfirst : first.given? t = some (k, name)) (hbetween : Op.clear ∉ between)
    (hsecond : second.given? ((first.run t).run between) = some (l, name))
    (hk : Keeps k (first.run t) (between ++ second :: after))
    (hl : Keeps l (second.run ((first.run t).run between)) after) :
    ∃ i, (t.run (first :: between ++ second :: after)).image? k = some i
      ∧ (t.run (first :: between ++ second :: after)).image? l = some i := by
  obtain ⟨hgiven, i, hi⟩ := image?_given hfirst
  have hfirst' : first ≠ .clear := by
    rintro rfl
    cases hfirst
  have hname : ((first.run t).run between).gallery.find? name = some i :=
    find?_run hbetween ((grows_run t hfirst').handles hi)
  have hrun : t.run (first :: between ++ second :: after)
      = (second.run ((first.run t).run between)).run after := by
    rw [List.cons_append]
    exact run_append (first.run t) between (second :: after)
  refine ⟨i, ?_, ?_⟩
  · rw [List.cons_append]
    exact hk.image?_run.trans (hgiven.trans hi)
  · rw [hrun, hl.image?_run, (image?_given hsecond).1, hname]

/-- What holds of the images of a troupe, and goes on to hold. -/
structure SharesImages (t : Troupe κ σ) : Prop where
  /-- A name stands for an image that carries it. -/
  carries (name : String) (i : ImageId) (hi : t.gallery.find? name = some i) :
    ∃ im, t.stage.image? i = some im ∧ im.name = name
  distinct (name other : String) (i : ImageId) (hname : t.gallery.find? name = some i)
    (hother : t.gallery.find? other = some i) : name = other
  /-- A new size is seen by the actors that hold the handle of the name. -/
  resized (name : String) (size : Size Float) (op : Op)
    (hop : op = .register name size ∨ op = .resize name size) (k : Nat) (i : ImageId)
    (hi : t.image? k = some i) :
    (op.run t).size? k = some (if t.gallery.find? name = some i then size else t.stage.sizeOf i)
  /-- Actors that were given the image of one name, and no other since, see one size, if the
  names were not forgotten between the first and the second. -/
  shared (name : String) (k l : Nat) (first second : Op) (between after : List Op)
    (hfirst : first.given? t = some (k, name)) (hbetween : Op.clear ∉ between)
    (hsecond : second.given? ((first.run t).run between) = some (l, name))
    (hk : Keeps k (first.run t) (between ++ second :: after))
    (hl : Keeps l (second.run ((first.run t).run between)) after) :
    ∃ size, (t.run (first :: between ++ second :: after)).size? k = some size
      ∧ (t.run (first :: between ++ second :: after)).size? l = some size
  /-- When the names are forgotten, what is behind a handle stays as it is. -/
  forgotten (i : ImageId) (im : Image Float) (hi : t.stage.image? i = some im) (later : List Op) :
    (t.run (.clear :: later)).stage.image? i = some im
  /-- So an actor that is given no other image has its last size for ever. -/
  keeps (k : Nat) (later : List Op) (hk : Keeps k (Op.clear.run t) later) :
    (t.run (.clear :: later)).size? k = t.size? k
  /-- No operation on images changes an actor, so none moves its anchor. -/
  anchored (op : Op) (hop : op.onImages = true) : (op.run t).actors = t.actors
  /-- The corner lies where the anchor and the size that is seen now put it. -/
  corner (k : Nat) (a : Actor Float) (ha : t.actors[k]? = some a) :
    ∃ size, t.size? k = some size ∧ t.corner? k
      = some (a.posX - a.anchorX.resolve size.width, a.posY - a.anchorY.resolve size.height)

/-- Whatever was done before, from no names and nobody on. -/
theorem images_are_shared (w : World κ σ Float) (before : List Op) :
    SharesImages ((start w).run before) := by
  have hsound := (sound_start w).run before
  generalize (start w).run before = t at hsound
  constructor
  case carries => exact fun name i hi => hsound.fits.image? hi
  case distinct => exact fun name other i => hsound.fits.injective
  case resized => exact fun name size op hop k i => hsound.size?_resized hop
  case shared =>
      intro name k l first second between after hfirst hbetween hsecond hk hl
      obtain ⟨i, hik, hil⟩ := image?_shared hfirst hbetween hsecond hk hl
      unfold size?
      rw [hik, hil]
      exact ⟨_, rfl, rfl⟩
  case forgotten =>
      intro i im hi later
      have hretired : (Op.clear.run t).gallery.Retired (Op.clear.run t).stage i :=
        ⟨Option.isSome_iff_exists.2 ⟨im, hi⟩, fun _ => nofun⟩
      exact (retired_run hretired later).trans hi
  case keeps =>
      intro k later hk
      have himage : (t.run (.clear :: later)).image? k = t.image? k := hk.image?_run
      unfold size?
      rw [himage]
      cases hi : t.image? k with
      | none => rfl
      | some i =>
          have hretired : (Op.clear.run t).gallery.Retired (Op.clear.run t).stage i :=
            ⟨hsound.images k i hi, fun _ => nofun⟩
          have hsame : (t.run (.clear :: later)).stage.image? i = t.stage.image? i :=
            retired_run hretired later
          rw [Option.map_some, Option.map_some]
          unfold Stage.sizeOf
          rw [hsame]
  case anchored =>
      intro op hop
      cases op with
      | enter name | rename k name | move k pos => cases hop
      | _ => rfl
  case corner =>
      intro k a ha
      refine ⟨t.stage.sizeOf a.image, ?_, ?_⟩
      · unfold size? image?
        rw [ha]
        rfl
      · unfold corner?
        rw [ha]
        rfl

/-- Two actors are given one image before the names are forgotten, and a third one the
image of the same name afterwards, which is registered anew and resized. -/
example :
    let t : Troupe Unit (List (Notice Unit Float)) :=
      (start (.bare 1.0 [])).run [.register "bee" ⟨10.0, 10.0⟩, .enter "bee",
        .register "bee" ⟨20.0, 30.0⟩, .enter "bee", .clear, .register "bee" ⟨1.0, 2.0⟩,
        .enter "bee", .resize "bee" ⟨3.0, 4.0⟩]
    t.size? 0 = some ⟨20.0, 30.0⟩ ∧ t.size? 1 = some ⟨20.0, 30.0⟩
      ∧ t.size? 2 = some ⟨3.0, 4.0⟩ := by decide +kernel

end Troupe

end Stagecraft
