/-
What registering images does to names and to handles.

A gallery leads from names to handles, and the stage from handles to images.
The two fit (`Fits`) when the image behind the handle of a name carries that
name; then no two names share a handle. Registering a name that is known
gives its image another size, and registering any other name adds an image
behind a new handle. Either way three things stay: handles of names, images
behind handles, and what is behind a handle that no name leads to
(`Grows`). The last is what makes an image outlive the name that it had.
-/
import Stagecraft.Gallery

namespace Stagecraft

variable {α : Type}

-- ================================================================ images

namespace Stage

theorem image?_resize (s : Stage α) (i j : ImageId) (size : Size α) :
    (s.resize i size).image? j
      = if i = j then (s.image? j).map fun im => { im with size } else s.image? j := by
  have hsame : i = j ↔ i.index = j.index := by
    cases i
    cases j
    simp
  unfold resize image?
  rw [Array.getElem?_modify]
  simp only [hsame]

theorem image?_addImage (s : Stage α) (im : Image α) (j : ImageId) :
    (s.addImage im).2.image? j
      = if j.index = s.images.size then some im else s.image? j := Array.getElem?_push

theorem index_lt_of_image? {s : Stage α} {i : ImageId} {im : Image α} (h : s.image? i = some im) :
    i.index < s.images.size := (Array.getElem?_eq_some_iff.1 h).1

theorem sizeOf_eq [Scalar α] {s : Stage α} {i : ImageId} {im : Image α}
    (h : s.image? i = some im) : s.sizeOf i = im.size := by
  unfold sizeOf
  rw [h]

end Stage

namespace Gallery

-- ============================================================ registering

theorem find?_concat (g : Gallery) (name other : String) (i : ImageId) :
    (⟨g.entries ++ [(name, i)]⟩ : Gallery).find? other
      = (g.find? other).or (if name = other then some i else none) := by
  unfold find?
  rw [List.find?_append, Option.map_or]
  by_cases hname : name = other
  · simp [hname]
  · simp [hname]

variable {g : Gallery} {s : Stage α} {name other : String} {i : ImageId} {size : Size α}

theorem register_known (h : g.find? name = some i) :
    g.register s name size = (i, g, s.resize i size) := by
  unfold register
  rw [h]

theorem register_new (h : g.find? name = none) :
    g.register s name size = (⟨s.images.size⟩, ⟨g.entries ++ [(name, ⟨s.images.size⟩)]⟩,
      (s.addImage ⟨name, size⟩).2) := by
  unfold register
  rw [h]
  rfl

/-- The name leads to the handle that is answered, and every other name to where it
led before. -/
theorem find?_register (g : Gallery) (s : Stage α) (name other : String) (size : Size α) :
    (g.register s name size).2.1.find? other
      = if name = other then some (g.register s name size).1 else g.find? other := by
  cases h : g.find? name with
  | some i =>
      rw [register_known h]
      split
      next hname => exact hname ▸ h
      next => rfl
  | none =>
      rw [register_new h, find?_concat]
      split
      next hname => rw [← hname, h, Option.none_or]
      next => rw [Option.or_none]

/-- An image has the new size if the name led to it, and is what it was if not. -/
theorem image?_register {im : Image α} (him : s.image? i = some im) (name : String)
    (size : Size α) :
    (g.register s name size).2.2.image? i
      = some (if g.find? name = some i then { im with size } else im) := by
  cases h : g.find? name with
  | some j =>
      rw [register_known h, Stage.image?_resize, him]
      simp only [Option.some_inj]
      split <;> rfl
  | none =>
      have hold : i.index ≠ s.images.size := Nat.ne_of_lt (Stage.index_lt_of_image? him)
      rw [register_new h, Stage.image?_addImage, if_neg hold, him, if_neg (by simp)]

-- =============================================================== fitting

/-- The image behind the handle of a name carries the name. -/
def Fits (g : Gallery) (s : Stage α) : Prop :=
  ∀ name i, g.find? name = some i → (s.image? i).map Image.name = some name

/-- A handle with an image that no name leads to. -/
def Retired (g : Gallery) (s : Stage α) (i : ImageId) : Prop :=
  (s.image? i).isSome = true ∧ ∀ name, g.find? name ≠ some i

theorem fits_empty (s : Stage α) : empty.Fits s := fun _ _ h => nomatch h

/-- Different names have different handles. -/
theorem Fits.injective (h : g.Fits s) (hname : g.find? name = some i)
    (hother : g.find? other = some i) : name = other :=
  Option.some.inj ((h name i hname).symm.trans (h other i hother))

theorem Fits.image? (h : g.Fits s) (hname : g.find? name = some i) :
    ∃ im, s.image? i = some im ∧ im.name = name := Option.map_eq_some_iff.1 (h name i hname)

/-- What all operations on images but forgetting the names have in common. -/
structure Grows (g g' : Gallery) (s s' : Stage α) : Prop where
  fits (h : g.Fits s) : g'.Fits s'
  handles {name : String} {i : ImageId} (h : g.find? name = some i) : g'.find? name = some i
  images {i : ImageId} (h : (s.image? i).isSome = true) : (s'.image? i).isSome = true
  retired {i : ImageId} (h : g.Retired s i) : g'.Retired s' i ∧ s'.image? i = s.image? i

theorem Grows.refl (g : Gallery) (s : Stage α) : Grows g g s s :=
  ⟨id, id, id, fun h => ⟨h, rfl⟩⟩

theorem Grows.trans {g' g'' : Gallery} {s' s'' : Stage α} (h : Grows g g' s s')
    (k : Grows g' g'' s' s'') : Grows g g'' s s'' :=
  ⟨fun hfits => k.fits (h.fits hfits), fun hname => k.handles (h.handles hname),
    fun himage => k.images (h.images himage), fun hretired =>
      ⟨(k.retired (h.retired hretired).1).1,
        (k.retired (h.retired hretired).1).2.trans (h.retired hretired).2⟩⟩

/-- The handle that is answered is new or the one that the name had. -/
theorem register_answer (g : Gallery) (s : Stage α) (name : String) (size : Size α) :
    g.find? name = some (g.register s name size).1
      ∨ g.find? name = none ∧ (g.register s name size).1 = ⟨s.images.size⟩ := by
  cases h : g.find? name with
  | some i => exact .inl (by rw [register_known h])
  | none => exact .inr ⟨rfl, by rw [register_new h]⟩

/-- The image of the name has the name and the size. -/
theorem Fits.image?_answer (h : g.Fits s) (name : String) (size : Size α) :
    (g.register s name size).2.2.image? (g.register s name size).1 = some ⟨name, size⟩ := by
  rcases register_answer g s name size with hknown | ⟨hnew, -⟩
  · obtain ⟨im, him, hname⟩ := h.image? hknown
    rw [image?_register him, if_pos hknown, ← hname]
  · rw [register_new hnew, Stage.image?_addImage, if_pos rfl]

theorem Fits.register (h : g.Fits s) (name : String) (size : Size α) :
    (g.register s name size).2.1.Fits (g.register s name size).2.2 := by
  intro other i hi
  rw [find?_register] at hi
  split at hi
  next hname =>
    cases hi
    rw [h.image?_answer, Option.map_some, hname]
  next hname =>
    obtain ⟨im, him, hother⟩ := h.image? hi
    have hsize : g.find? name ≠ some i := fun hname' => hname (h.injective hname' hi)
    rw [image?_register him, if_neg hsize, Option.map_some, hother]

theorem Retired.register (h : g.Retired s i) (name : String) (size : Size α) :
    (g.register s name size).2.1.Retired (g.register s name size).2.2 i
      ∧ (g.register s name size).2.2.image? i = s.image? i := by
  obtain ⟨himage, hnone⟩ := h
  obtain ⟨im, him⟩ := Option.isSome_iff_exists.1 himage
  have hsame : (g.register s name size).2.2.image? i = s.image? i := by
    rw [image?_register him, if_neg (hnone name), him]
  refine ⟨⟨hsame ▸ himage, fun other hother => ?_⟩, hsame⟩
  rw [find?_register] at hother
  split at hother
  next =>
    rcases register_answer g s name size with hknown | ⟨-, hnew⟩
    · exact hnone name (hknown.trans hother)
    · -- a new handle has no image yet
      rw [hnew] at hother
      cases hother
      exact Nat.lt_irrefl _ (Stage.index_lt_of_image? him)
  next => exact hnone other hother

theorem grows_register (g : Gallery) (s : Stage α) (name : String) (size : Size α) :
    Grows g (g.register s name size).2.1 s (g.register s name size).2.2 where
  fits h := h.register name size
  handles {other i} hi := by
    rw [find?_register]
    split
    next hname =>
      subst hname
      rcases register_answer g s name size with hknown | ⟨hnew, -⟩
      · exact hknown.symm.trans hi
      · cases hnew.symm.trans hi
    next => exact hi
  images h := by
    obtain ⟨im, him⟩ := Option.isSome_iff_exists.1 h
    rw [image?_register him]
    rfl
  retired h := h.register name size

theorem grows_registerAll (g : Gallery) (s : Stage α) (entries : List (String × Size α)) :
    Grows g (g.registerAll s entries).1 s (g.registerAll s entries).2 := by
  induction entries generalizing g s with
  | nil => exact .refl g s
  | cons e entries ih => exact (grows_register g s e.1 e.2).trans (ih _ _)

/-- Resizing the image of a name is registering the name again. -/
theorem resize_eq (g : Gallery) (s : Stage α) (name : String) (size : Size α) :
    g.resize s name size
      = if g.contains name then .ok (g.register s name size).2.2
        else .error (.unknownImage name) := by
  unfold resize get contains
  cases h : g.find? name with
  | some i => rw [register_known h]; rfl
  | none => rfl

/-- Registering a name that is known leaves the names as they are. -/
theorem register_of_contains (h : g.contains name = true) (s : Stage α) (size : Size α) :
    (g.register s name size).2.1 = g := by
  obtain ⟨i, hi⟩ := Option.isSome_iff_exists.1 h
  rw [register_known hi]

-- =============================================================== puppets

/-- Operations on images touch no puppet. -/
theorem puppets_register (g : Gallery) (s : Stage α) (name : String) (size : Size α) :
    (g.register s name size).2.2.puppets = s.puppets := by
  cases h : g.find? name with
  | some i => rw [register_known h]; rfl
  | none => rw [register_new h]; rfl

theorem puppets_registerAll (g : Gallery) (s : Stage α) (entries : List (String × Size α)) :
    (g.registerAll s entries).2.puppets = s.puppets := by
  induction entries generalizing g s with
  | nil => rfl
  | cons e entries ih => exact (ih _ _).trans (puppets_register g s e.1 e.2)

theorem puppets_resize {s' : Stage α} (h : g.resize s name size = .ok s') :
    s'.puppets = s.puppets := by
  rw [resize_eq] at h
  split at h
  · cases h
    exact puppets_register g s name size
  · cases h

-- ================================================================ actors

theorem toOption_get (g : Gallery) (name : String) :
    (g.get name : Except (Fault α) ImageId).toOption = g.find? name := by
  unfold get
  split
  next h => exact h.symm
  next h => exact h.symm

theorem toOption_newActor [Scalar α] (g : Gallery) (s : Stage α) (name : String) :
    (g.newActor s name).toOption = (g.find? name).map fun i => .new i (s.sizeOf i) := by
  rw [← toOption_get (α := α) g name]
  unfold newActor
  cases (g.get name : Except (Fault α) ImageId) <;> rfl

theorem toOption_rename (g : Gallery) (a : Actor α) (name : String) :
    (g.rename a name).toOption = (g.find? name).map fun i => { a with image := i } := by
  rw [← toOption_get (α := α) g name]
  unfold rename
  cases (g.get name : Except (Fault α) ImageId) <;> rfl

end Gallery

end Stagecraft
