/-
Loading a manifest.

A manifest is read as a whole before the first of its images is registered,
and what is registered is a map: a name that is repeated has its last size. In
which order a map is gone through nobody knows, and registering a name does
one thing or another: it makes an image where the name is new, and gives the
image another size where it is not. Still there is one outcome. Whatever list
of entries is registered, the image of a name is afterwards the one that its
last entry says (`Outcome`), and this leaves open nothing but which of the new
handles is whose: two lists with the same last entries have outcomes that are
the same when the new handles of one are renamed (`Outcome.alike`).
-/
import Stagecraft.Proofs.Images.Sharing
import Stagecraft.Proofs.Json.RoundTrip

namespace Stagecraft

variable {α : Type}

-- =========================================================== last entries

/-- Whether a name has this size in the end. -/
def LastEntry (entries : List (String × Size α)) (name : String) (size : Size α) : Prop :=
  ∃ before after, entries = before ++ (name, size) :: after ∧ name ∉ after.map Prod.fst

/-- The size that a name has in the end. -/
def lastSize? : List (String × Size α) → String → Option (Size α)
  | [], _ => none
  | e :: rest, name => (lastSize? rest name).or (if e.1 = name then some e.2 else none)

theorem lastSize?_eq_none_iff {entries : List (String × Size α)} {name : String} :
    lastSize? entries name = none ↔ name ∉ entries.map Prod.fst := by
  induction entries with
  | nil => exact iff_of_true rfl List.not_mem_nil
  | cons e rest ih =>
      rw [lastSize?, Option.or_eq_none_iff, ih, List.map_cons, List.mem_cons, not_or, and_comm,
        ite_eq_right_iff, eq_comm]
      simp

theorem lastSize?_append (before after : List (String × Size α)) (name : String) :
    lastSize? (before ++ after) name = (lastSize? after name).or (lastSize? before name) := by
  induction before with
  | nil => rw [List.nil_append, lastSize?, Option.or_none]
  | cons e rest ih => rw [List.cons_append, lastSize?, ih, Option.or_assoc, lastSize?]

theorem lastSize?_eq_some_iff {entries : List (String × Size α)} {name : String} {size : Size α} :
    lastSize? entries name = some size ↔ LastEntry entries name size := by
  constructor
  · intro h
    induction entries with
    | nil => cases h
    | cons e rest ih =>
        rw [lastSize?, Option.or_eq_some_iff] at h
        rcases h with hlater | ⟨hnone, hhere⟩
        · obtain ⟨before, after, rfl, hafter⟩ := ih hlater
          exact ⟨e :: before, after, rfl, hafter⟩
        · obtain ⟨rfl, hsize⟩ := Option.ite_none_right_eq_some.1 hhere
          cases hsize
          exact ⟨[], rest, rfl, lastSize?_eq_none_iff.1 hnone⟩
  · rintro ⟨before, after, rfl, hafter⟩
    rw [lastSize?_append, lastSize?, lastSize?_eq_none_iff.2 hafter, Option.none_or, if_pos rfl,
      Option.some_or]

namespace Gallery

-- ========================================================= images by name

/-- The image that a name stands for. -/
def look? (g : Gallery) (s : Stage α) (name : String) : Option (Image α) :=
  (g.find? name).bind s.image?

variable {g : Gallery} {s : Stage α} {name : String} {i : ImageId}

theorem Fits.look?_eq_none_iff (h : g.Fits s) : g.look? s name = none ↔ g.find? name = none := by
  unfold look?
  cases hname : g.find? name with
  | none => exact iff_of_true rfl rfl
  | some i =>
      obtain ⟨im, him, -⟩ := h.image? hname
      rw [Option.bind_some, him]
      exact iff_of_false nofun nofun

/-- A name that is known goes on to stand for what is behind its handle. -/
theorem Grows.look?_eq {g' : Gallery} {s' : Stage α} (h : Grows g g' s s')
    (hi : g.find? name = some i) : g'.look? s' name = s'.image? i := by
  unfold look?
  rw [h.handles hi, Option.bind_some]

theorem look?_register (h : g.Fits s) (name other : String) (size : Size α) :
    (g.register s name size).2.1.look? (g.register s name size).2.2 other
      = if name = other then some ⟨name, size⟩ else g.look? s other := by
  unfold look?
  rw [find?_register]
  split_ifs with hname
  · rw [Option.bind_some, h.image?_answer]
  · cases hother : g.find? other with
    | none => rfl
    | some i =>
        obtain ⟨im, him, -⟩ := h.image? hother
        have hkept : g.find? name ≠ some i := fun hi => hname (h.injective hi hother)
        rw [Option.bind_some, Option.bind_some, image?_register him, if_neg hkept, him]

/-- An image that registering a name made has this name. -/
theorem find?_of_made {im : Image α} {size : Size α}
    (him : (g.register s name size).2.2.image? i = some im) (hnew : s.image? i = none) :
    (g.register s name size).2.1.find? im.name = some i := by
  cases h : g.find? name with
  | some j =>
      rw [register_known h, Stage.image?_resize, hnew, Option.map_none, ite_self] at him
      cases him
  | none =>
      rw [register_new h, Stage.image?_addImage, hnew] at him
      obtain ⟨hlast, hmade⟩ := Option.ite_none_right_eq_some.1 him
      cases hmade
      rw [find?_register, if_pos rfl, register_new h, ← hlast]

/-- What registering entries comes to, given the last size of every name. -/
structure Outcome (g : Gallery) (s : Stage α) (last : String → Option (Size α)) (g' : Gallery)
    (s' : Stage α) : Prop where
  fits : g'.Fits s'
  grows : Grows g g' s s'
  look (name : String) :
    g'.look? s' name = ((last name).map fun size => ⟨name, size⟩).or (g.look? s name)
  /-- An image that was made has the name that it was made for. -/
  made {i : ImageId} {im : Image α} (him : s'.image? i = some im) (hnew : s.image? i = none) :
    g'.find? im.name = some i

theorem outcome_registerAll (h : g.Fits s) (entries : List (String × Size α)) :
    Outcome g s (lastSize? entries) (g.registerAll s entries).1 (g.registerAll s entries).2 := by
  induction entries generalizing g s with
  | nil =>
      refine ⟨h, .refl g s, fun name => rfl, fun him hnew => ?_⟩
      cases hnew.symm.trans him
  | cons e rest ih =>
      have hstep := ih (h.register e.1 e.2)
      constructor
      case fits => exact hstep.fits
      case grows => exact (grows_register g s e.1 e.2).trans hstep.grows
      case look =>
          intro name
          refine (hstep.look name).trans ?_
          rw [look?_register h, lastSize?]
          cases lastSize? rest name with
          | some size => rfl
          | none =>
              split_ifs with hname
              · rw [hname]
                rfl
              · rfl
      case made =>
          intro i im him hnew
          -- made by the rest, or by this entry, whose handle the rest keeps
          cases hfirst : (g.register s e.1 e.2).2.2.image? i with
          | none => exact hstep.made him hfirst
          | some im' =>
              have hlater := hstep.grows.handles (find?_of_made hfirst hnew)
              obtain ⟨im'', him'', hname''⟩ := hstep.fits.image? hlater
              rw [Option.some.inj (him.symm.trans him''), hname'']
              exact hlater

-- ============================================================ new handles

section Alike

variable {last : String → Option (Size α)} {g' : Gallery} {s' : Stage α}

/-- A name that was not known has the handle of an image that was made. -/
theorem Outcome.image?_of_new (o : Outcome g s last g' s') (h : g.find? name = none)
    (hi : g'.find? name = some i) : s.image? i = none := by
  by_contra hold
  have himage : (s.image? i).isSome = true := Option.isSome_iff_ne_none.2 hold
  -- an image that was there has the name it had, or none and gets none
  by_cases hnamed : ∃ other, g.find? other = some i
  · obtain ⟨other, hother⟩ := hnamed
    rw [o.fits.injective hi (o.grows.handles hother), hother] at h
    cases h
  · exact (o.grows.retired ⟨himage, not_exists.1 hnamed⟩).1.2 name hi

theorem Outcome.find?_of_unlisted (o : Outcome g s last g' s') (h : g.Fits s)
    (hlast : last name = none) : g'.find? name = g.find? name := by
  cases hname : g.find? name with
  | some i => exact o.grows.handles hname
  | none =>
      rw [← o.fits.look?_eq_none_iff, o.look, hlast]
      exact h.look?_eq_none_iff.2 hname

/-- An image stays as it is if none of the entries is for the name that leads to it. -/
theorem Outcome.image?_of_unlisted (o : Outcome g s last g' s')
    (himage : (s.image? i).isSome = true) (h : ∀ name, g.find? name = some i → last name = none) :
    s'.image? i = s.image? i := by
  by_cases hnamed : ∃ name, g.find? name = some i
  · obtain ⟨name, hname⟩ := hnamed
    rw [← o.grows.look?_eq hname, o.look, h name hname, ← (Grows.refl g s).look?_eq hname]
    rfl
  · exact (o.grows.retired ⟨himage, not_exists.1 hnamed⟩).2

/-- An image that was made is the one of its name, which was not known. -/
theorem Outcome.find?_of_made (o : Outcome g s last g' s') (h : g.Fits s) {im : Image α}
    (him : s'.image? i = some im) (hnew : s.image? i = none) :
    g.find? im.name = none ∧ g'.find? im.name = some i ∧ g'.look? s' im.name = some im := by
  have hi := o.made him hnew
  refine ⟨?_, hi, ?_⟩
  · rw [Option.eq_none_iff_forall_ne_some]
    intro j hj
    have hsame : j = i := Option.some.inj ((o.grows.handles hj).symm.trans hi)
    obtain ⟨im', him', -⟩ := h.image? hj
    rw [hsame, hnew] at him'
    cases him'
  · unfold look?
    rw [hi, Option.bind_some, him]

variable {g₁ g₂ : Gallery} {s₁ s₂ : Stage α}

/-- The handle that an image of one outcome has in another one. -/
def transfer (s s₁ : Stage α) (g₂ : Gallery) (i : ImageId) : ImageId :=
  if (s.image? i).isSome then i
  else ((s₁.image? i).bind fun im => g₂.find? im.name).getD i

/-- Whether one outcome is another one but for the handles of the images that were made. -/
structure Renamed (s : Stage α) (ρ : ImageId → ImageId) (g₁ g₂ : Gallery) (s₁ s₂ : Stage α) :
    Prop where
  old {i : ImageId} (hi : (s.image? i).isSome = true) : ρ i = i
  names (name : String) : g₂.find? name = (g₁.find? name).map ρ
  images {i : ImageId} (hi : (s₁.image? i).isSome = true) : s₂.image? (ρ i) = s₁.image? i

/-- Whether two outcomes are the same but for the handles of the images that were made. -/
def Alike (s : Stage α) (g₁ g₂ : Gallery) (s₁ s₂ : Stage α) : Prop :=
  ∃ ρ ρ', Renamed s ρ g₁ g₂ s₁ s₂ ∧ Renamed s ρ' g₂ g₁ s₂ s₁
    ∧ (∀ i, (s₁.image? i).isSome = true → ρ' (ρ i) = i)
    ∧ (∀ i, (s₂.image? i).isSome = true → ρ (ρ' i) = i)

section Outcomes

variable (h : g.Fits s) (o₁ : Outcome g s last g₁ s₁) (o₂ : Outcome g s last g₂ s₂)

include h o₁ o₂

/-- An image that was made on one way was made on the other. -/
theorem Outcome.counterpart {im : Image α} (him : s₁.image? i = some im)
    (hnew : s.image? i = none) :
    ∃ j, g₂.find? im.name = some j ∧ s₂.image? j = some im ∧ s.image? j = none := by
  obtain ⟨hunknown, -, hlook⟩ := o₁.find?_of_made h him hnew
  rw [o₁.look, ← o₂.look] at hlook
  obtain ⟨j, hj, himage⟩ := Option.bind_eq_some_iff.1 hlook
  exact ⟨j, hj, himage, o₂.image?_of_new hunknown hj⟩

theorem Outcome.renamed : Renamed s (transfer s s₁ g₂) g₁ g₂ s₁ s₂ := by
  have hold {i : ImageId} (hi : (s.image? i).isSome = true) : transfer s s₁ g₂ i = i := if_pos hi
  have hmade {i j : ImageId} {im : Image α} (him : s₁.image? i = some im)
      (hnew : s.image? i = none) (hj : g₂.find? im.name = some j) : transfer s s₁ g₂ i = j := by
    unfold transfer
    rw [hnew, if_neg nofun, him, Option.bind_some, hj, Option.getD_some]
  constructor
  case old => exact hold
  case names =>
      intro name
      cases hname : g.find? name with
      | some i =>
          obtain ⟨im, him, -⟩ := h.image? hname
          rw [o₁.grows.handles hname, o₂.grows.handles hname, Option.map_some,
            hold (Option.isSome_iff_exists.2 ⟨im, him⟩)]
      | none =>
          cases hi : g₁.find? name with
          | none =>
              rw [← o₁.fits.look?_eq_none_iff, o₁.look, ← o₂.look, o₂.fits.look?_eq_none_iff] at hi
              rw [hi, Option.map_none]
          | some i =>
              obtain ⟨im, him, himname⟩ := o₁.fits.image? hi
              have hnew := o₁.image?_of_new hname hi
              obtain ⟨j, hj, -⟩ := o₁.counterpart h o₂ him hnew
              rw [Option.map_some, hmade him hnew hj, ← himname]
              exact hj
  case images =>
      intro i hi
      obtain ⟨im, him⟩ := Option.isSome_iff_exists.1 hi
      cases hnew : s.image? i with
      | none =>
          obtain ⟨j, hj, himage, -⟩ := o₁.counterpart h o₂ him hnew
          rw [hmade him hnew hj, himage, him]
      | some im' =>
          have himage : (s.image? i).isSome = true := Option.isSome_iff_exists.2 ⟨im', hnew⟩
          rw [hold himage]
          -- behind a name it was resized alike, and behind none it was left alone
          by_cases hnamed : ∃ name, g.find? name = some i
          · obtain ⟨name, hname⟩ := hnamed
            rw [← o₂.grows.look?_eq hname, ← o₁.grows.look?_eq hname, o₁.look, o₂.look]
          · have hretired : g.Retired s i := ⟨himage, not_exists.1 hnamed⟩
            rw [(o₁.grows.retired hretired).2, (o₂.grows.retired hretired).2]

/-- There and back again is where one was. -/
theorem Outcome.transfer_transfer (hi : (s₁.image? i).isSome = true) :
    transfer s s₂ g₁ (transfer s s₁ g₂ i) = i := by
  have hback := o₂.renamed h o₁
  cases hnew : s.image? i with
  | some im =>
      have himage : (s.image? i).isSome = true := Option.isSome_iff_exists.2 ⟨im, hnew⟩
      rw [(o₁.renamed h o₂).old himage, hback.old himage]
  | none =>
      obtain ⟨im, him⟩ := Option.isSome_iff_exists.1 hi
      have hname : g₁.find? im.name = some i := o₁.made him hnew
      have hthere := (o₁.renamed h o₂).names im.name
      rw [hname, Option.map_some] at hthere
      have hhere := hback.names im.name
      rw [hthere, hname, Option.map_some] at hhere
      exact (Option.some.inj hhere).symm

/-- **Whatever leads to the same last sizes has the same outcome.** -/
theorem Outcome.alike : Alike s g₁ g₂ s₁ s₂ :=
  ⟨_, _, o₁.renamed h o₂, o₂.renamed h o₁, fun _ => o₁.transfer_transfer h o₂,
    fun _ => o₂.transfer_transfer h o₁⟩

end Outcomes

end Alike

end Gallery

-- ============================================================== manifests

namespace Manifest

/-- Whether a member of an object is an entry: under a name, an array of two numbers. -/
def IsEntry (member : Option String × Json) (e : String × Size Float) : Prop :=
  member.1 = some e.1 ∧ ∃ width height, member.2 = .array [width, height]
    ∧ Json.number? width = some e.2.width ∧ Json.number? height = some e.2.height

/-- Whether a text is an object of these entries, one after the other. -/
def Lists (text : String) (m : Manifest) : Prop :=
  ∃ members, Json.read? text = some (.object members) ∧ List.Forall₂ IsEntry members m

variable {text : String} {m order order' : Manifest}

theorem parse_eq_ok (h : Lists text m) : parse text = .ok m := by
  obtain ⟨members, hread, hentries⟩ := h
  have hentry : ∀ member e, IsEntry member e → entry? member = some e := by
    rintro ⟨key, value⟩ ⟨name, size⟩ ⟨rfl, width, height, rfl, hwidth, hheight⟩
    have hsize : size? (.array [width, height]) = some size := by
      show (do
        let width ← Json.number? width
        let height ← Json.number? height
        some (⟨width, height⟩ : Size Float)) = some size
      rw [hwidth, hheight]
      rfl
    show (size? (.array [width, height]) >>= fun size => some (name, size)) = _
    rw [hsize]
    rfl
  unfold parse
  rw [hread, Option.bind_some, ofJson?, Json.mapM_eq_some_of_forall₂ (hentries.imp hentry)]

/-- Dropping repetitions leaves every value once. -/
theorem nodup_eraseDups (l : List String) : l.eraseDups.Nodup := by
  match l with
  | [] => exact List.nodup_nil
  | name :: rest =>
      rw [List.eraseDups_cons, List.nodup_cons]
      refine ⟨fun hname => ?_, nodup_eraseDups _⟩
      simpa using List.mem_eraseDups.1 hname
termination_by l.length
decreasing_by exact Nat.lt_succ_of_le (List.length_filter_le _ _)

theorem count_eq (m : Manifest) : m.count = (m.map Prod.fst).toFinset.card := by
  have hsame : m.names.toFinset = (m.map Prod.fst).toFinset := by
    ext name
    rw [List.mem_toFinset, List.mem_toFinset]
    exact List.mem_eraseDups
  rw [← hsame]
  exact (List.toFinset_card_of_nodup (nodup_eraseDups _)).symm

/-- Whether going through the map of a manifest may give the entries in this order. -/
structure Iterates (m order : Manifest) : Prop where
  once : (order.map Prod.fst).Nodup
  entries (name : String) (size : Size Float) : (name, size) ∈ order ↔ LastEntry m name size

/-- The last entries, in one of the orders. -/
def lastEntries (m : Manifest) : Manifest :=
  m.names.filterMap fun name => (lastSize? m name).map (Prod.mk name)

theorem iterates_lastEntries (m : Manifest) : Iterates m m.lastEntries where
  once := by
    unfold lastEntries
    rw [List.map_filterMap]
    refine (nodup_eraseDups _).filterMap fun name other found hname hother => ?_
    rw [Option.map_map] at hname hother
    obtain ⟨_, -, rfl⟩ := Option.map_eq_some_iff.1 hname
    obtain ⟨_, -, hsame⟩ := Option.map_eq_some_iff.1 hother
    exact hsame.symm
  entries name size := by
    unfold lastEntries
    rw [List.mem_filterMap, ← lastSize?_eq_some_iff]
    constructor
    · rintro ⟨other, -, hother⟩
      obtain ⟨_, hsize, hsame⟩ := Option.map_eq_some_iff.1 hother
      cases hsame
      exact hsize
    · intro hsize
      refine ⟨name, List.mem_eraseDups.2 ?_, by rw [hsize, Option.map_some]⟩
      by_contra hname
      rw [lastSize?_eq_none_iff.2 hname] at hsize
      cases hsize

theorem lastEntry_iff_mem (h : (order.map Prod.fst).Nodup) {name : String} {size : Size Float} :
    LastEntry order name size ↔ (name, size) ∈ order := by
  constructor
  · rintro ⟨before, after, rfl, -⟩
    simp
  · intro hmem
    obtain ⟨before, after, rfl⟩ := List.append_of_mem hmem
    rw [List.map_append, List.map_cons, List.nodup_append, List.nodup_cons] at h
    exact ⟨before, after, rfl, h.2.1.1⟩

theorem Iterates.lastSize?_eq (h : Iterates m order) : lastSize? order = lastSize? m := by
  funext name
  refine Option.ext fun size => ?_
  rw [lastSize?_eq_some_iff, lastEntry_iff_mem h.once, h.entries, lastSize?_eq_some_iff]

theorem Iterates.length_eq (h : Iterates m order) :
    order.length = (m.map Prod.fst).toFinset.card := by
  have hsame : (order.map Prod.fst).toFinset = (m.map Prod.fst).toFinset := by
    ext name
    rw [List.mem_toFinset, List.mem_toFinset, ← not_iff_not, ← lastSize?_eq_none_iff,
      ← lastSize?_eq_none_iff, h.lastSize?_eq]
  rw [← hsame, List.toFinset_card_of_nodup h.once, List.length_map]

end Manifest

-- ================================================================ loading

namespace Troupe

open Manifest

variable {κ σ : Type} [Journal (Notice κ Float) σ] {t : Troupe κ σ} {text : String} {m : Manifest}

theorem loadManifestText_eq (h : Lists text m) :
    t.world.loadManifestText text = (.ok m.count, (t.world.registerManifest m).2) := by
  unfold World.loadManifestText
  rw [parse_eq_ok h]
  rfl

/-- Loading a manifest registers its entries. -/
theorem images_load (h : Lists text m) :
    ((Op.load text).run t).gallery = (t.gallery.registerAll t.stage m).1
      ∧ ((Op.load text).run t).stage = (t.gallery.registerAll t.stage m).2 := by
  have hworld : ((Op.load text).run t).world = (t.world.registerManifest m).2 :=
    congrArg Prod.snd (loadManifestText_eq h)
  unfold gallery stage
  rw [hworld]
  unfold World.registerManifest
  dsimp only
  rw [World.foldl_note]
  exact ⟨rfl, rfl⟩

theorem Sound.outcome_load (hsound : t.Sound) (h : Lists text m) :
    t.gallery.Outcome t.stage (lastSize? m) ((Op.load text).run t).gallery
      ((Op.load text).run t).stage := by
  rw [(images_load h).1, (images_load h).2]
  exact Gallery.outcome_registerAll hsound.fits m

omit [Journal (Notice κ Float) σ] in
theorem size?_eq {k : Nat} {i : ImageId} {im : Image Float} (hk : t.image? k = some i)
    (him : t.stage.image? i = some im) : t.size? k = some im.size := by
  unfold size?
  rw [hk, Option.map_some, Stage.sizeOf_eq him]

/-- What it means that a text was loaded as a manifest of some entries, where `t'` is what
is there afterwards. -/
structure Loaded (t t' : Troupe κ σ) (text : String) (m : Manifest) : Prop where
  answer : (t.world.loadManifestText text).1 = .ok (m.map Prod.fst).toFinset.card
  /-- A name has its last size. -/
  listed {name : String} {size : Size Float} (h : LastEntry m name size) :
    ∃ i, t'.gallery.find? name = some i ∧ t'.stage.image? i = some ⟨name, size⟩
  unlisted {name : String} (h : name ∉ m.map Prod.fst) :
    t'.gallery.find? name = t.gallery.find? name
      ∧ ∀ i, t.gallery.find? name = some i → t'.stage.image? i = t.stage.image? i
  /-- A name that was known keeps its handle. -/
  known {name : String} {i : ImageId} (hi : t.gallery.find? name = some i) :
    t'.gallery.find? name = some i
  /-- So the actors that hold it see the new size. -/
  seen {k : Nat} {i : ImageId} {name : String} {size : Size Float} (hk : t.image? k = some i)
    (hi : t.gallery.find? name = some i) (h : LastEntry m name size) : t'.size? k = some size
  unseen {k : Nat} {i : ImageId} (hk : t.image? k = some i)
    (h : ∀ name ∈ m.map Prod.fst, t.gallery.find? name ≠ some i) : t'.size? k = t.size? k
  actors : t'.actors = t.actors
  puppets : t'.stage.puppets = t.stage.puppets
  /-- A map is gone through in some order, each name once. -/
  iterated : ∃ order, Iterates m order
  /-- Any order comes to the same. -/
  any_order {order : Manifest} (h : Iterates m order) :
    order.length = (m.map Prod.fst).toFinset.card
      ∧ Gallery.Alike t.stage (t.gallery.registerAll t.stage order).1 t'.gallery
        (t.gallery.registerAll t.stage order).2 t'.stage
  any_two {order order' : Manifest} (h : Iterates m order) (h' : Iterates m order') :
    Gallery.Alike t.stage (t.gallery.registerAll t.stage order).1
      (t.gallery.registerAll t.stage order').1 (t.gallery.registerAll t.stage order).2
      (t.gallery.registerAll t.stage order').2

/-- **Loading a manifest gives every name its last size**, and nothing hangs on the order. -/
theorem manifests_are_loaded (hsound : t.Sound) (h : Lists text m) :
    Loaded t ((Op.load text).run t) text m := by
  have hload := hsound.outcome_load h
  have hactors : ((Op.load text).run t).actors = t.actors := rfl
  have hstage : ((Op.load text).run t).stage = (t.gallery.registerAll t.stage m).2 :=
    (images_load h).2
  have himage (k : Nat) : ((Op.load text).run t).image? k = t.image? k := rfl
  generalize (Op.load text).run t = t' at hload hactors hstage himage
  have hlisted {name : String} {size : Size Float} (hlast : LastEntry m name size) :
      t'.gallery.look? t'.stage name = some ⟨name, size⟩ := by
    rw [hload.look, lastSize?_eq_some_iff.2 hlast]
    rfl
  have horder {order : Manifest} (ho : Iterates m order) :
      t.gallery.Outcome t.stage (lastSize? m) (t.gallery.registerAll t.stage order).1
        (t.gallery.registerAll t.stage order).2 :=
    ho.lastSize?_eq ▸ Gallery.outcome_registerAll hsound.fits order
  constructor
  case answer => rw [loadManifestText_eq h, count_eq]
  case listed => exact fun hlast => Option.bind_eq_some_iff.1 (hlisted hlast)
  case unlisted =>
      intro name hname
      have hlast := lastSize?_eq_none_iff.2 hname
      refine ⟨hload.find?_of_unlisted hsound.fits hlast, fun i hi => ?_⟩
      obtain ⟨im, him, -⟩ := hsound.fits.image? hi
      refine hload.image?_of_unlisted (Option.isSome_iff_exists.2 ⟨im, him⟩) fun other hother => ?_
      rwa [hsound.fits.injective hother hi]
  case known => exact hload.grows.handles
  case seen =>
      intro k i name size hk hi hlast
      have hnew := hlisted hlast
      rw [hload.grows.look?_eq hi] at hnew
      exact size?_eq ((himage k).trans hk) hnew
  case unseen =>
      intro k i hk hnone
      have himage' := hsound.images k i hk
      obtain ⟨im, him⟩ := Option.isSome_iff_exists.1 himage'
      have hkept : t'.stage.image? i = some im := by
        rw [← him]
        refine hload.image?_of_unlisted himage' fun name hname => ?_
        exact lastSize?_eq_none_iff.2 fun hlisted => hnone name hlisted hname
      rw [size?_eq ((himage k).trans hk) hkept, size?_eq hk him]
  case actors => exact hactors
  case puppets => rw [hstage, Gallery.puppets_registerAll]
  case iterated => exact ⟨_, iterates_lastEntries m⟩
  case any_order => exact fun ho => ⟨ho.length_eq, (horder ho).alike hsound.fits hload⟩
  case any_two => exact fun ho ho' => (horder ho).alike hsound.fits (horder ho')

/-- A name that is known, and two actors that hold its image. -/
def hive : Troupe Unit (List (Notice Unit Float)) :=
  (start (.bare 1.0 [])).run [.register "bee" ⟨10.0, 20.0⟩, .enter "bee", .enter "bee"]

/-- The name that is known twice, and a new one between. -/
def swarm : String := "\x7b\"bee\":[1,2],\"fly\":[3,4],\"bee\":[5,6.5]\x7d"

open Json in
theorem lists_swarm :
    Lists swarm [("bee", ⟨1.0, 2.0⟩), ("fly", ⟨3.0, 4.0⟩), ("bee", ⟨5.0, 6.5⟩)] := by
  let digit (c : Char) : Json := .number ⟨false, [c], [], 0⟩
  have htext : swarm = objectText
      [("\"bee\"", "[1,2]"), ("\"fly\"", "[3,4]"), ("\"bee\"", "[5,6.5]")] := by
    decide +kernel
  have hread : read? swarm = some (.object [(some "bee", .array [digit '1', digit '2']),
      (some "fly", .array [digit '3', digit '4']),
      (some "bee", .array [digit '5', .number ⟨false, ['6'], ['5'], 0⟩])]) := by
    rw [htext]
    refine read?_objectText (.cons ⟨rfl, ?_⟩ (.cons ⟨rfl, ?_⟩ (.cons ⟨rfl, ?_⟩ .nil)))
    · exact (read?_writeArray (.cons rfl (.cons rfl .nil)) : read? (writeArray ["1", "2"]) = _)
    · exact (read?_writeArray (.cons rfl (.cons rfl .nil)) : read? (writeArray ["3", "4"]) = _)
    · exact (read?_writeArray (.cons rfl (.cons rfl .nil)) : read? (writeArray ["5", "6.5"]) = _)
  have hnumber : number? (digit '1') = some 1.0 ∧ number? (digit '2') = some 2.0
      ∧ number? (digit '3') = some 3.0 ∧ number? (digit '4') = some 4.0
      ∧ number? (digit '5') = some 5.0
      ∧ number? (.number ⟨false, ['6'], ['5'], 0⟩) = some 6.5 := by
    decide +kernel
  obtain ⟨h1, h2, h3, h4, h5, h6⟩ := hnumber
  exact ⟨_, hread, .cons ⟨rfl, _, _, rfl, h1, h2⟩ (.cons ⟨rfl, _, _, rfl, h3, h4⟩
    (.cons ⟨rfl, _, _, rfl, h5, h6⟩ .nil))⟩

/-- Of the name that is known twice the last size stays, and the actors that hold its image have
it. -/
theorem swarm_loaded :
    hive.Sound
      ∧ Lists swarm [("bee", ⟨1.0, 2.0⟩), ("fly", ⟨3.0, 4.0⟩), ("bee", ⟨5.0, 6.5⟩)]
      ∧ (hive.world.loadManifestText swarm).1 = .ok 2
      ∧ ((Op.load swarm).run hive).size? 1 = some ⟨5.0, 6.5⟩ := by
  have hsound : hive.Sound := (sound_start _).run _
  have hloaded := manifests_are_loaded hsound lists_swarm
  have himage : hive.image? 1 = some ⟨0⟩ := by decide +kernel
  have hbee : hive.gallery.find? "bee" = some ⟨0⟩ := by decide +kernel
  exact ⟨hsound, lists_swarm, hloaded.answer,
    hloaded.seen himage hbee ⟨[("bee", ⟨1.0, 2.0⟩), ("fly", ⟨3.0, 4.0⟩)], [], rfl, nofun⟩⟩

end Troupe

end Stagecraft
