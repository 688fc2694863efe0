/-
Actors anchored at a point, in exact arithmetic.

An actor that is anchored at one of the nine points of its box lies with this
point at its position. The position is a field of the actor, and where the
points of the box are is computed from it: the anchor says, axis by axis, how far the
corner is from the position, and the point how far it is from the corner. The
two distances are looked up in tables of their own, the one by the anchors of
the point, the other by the point itself; since the tables agree
(`AnchorPoint.offset_eq`), what the one takes away the other gives back, for
every size (`Actor.point_of_anchor`).

# What can happen to an actor

So nothing has to be known of an actor but its anchor. Images are resized, and
names get other images, without a look at who shows them; the actor is moved, its
attributes are written, by themselves or by tweens, and it is given other
images; and none of these is its anchor (`Scene.actor?_run`). As long as no
other one is set, the point stays at the position, though both may move.
-/
import Stagecraft.Proofs.Attributes.Placing
import Stagecraft.Proofs.Attributes.Spelling
import Stagecraft.Proofs.Images.Handles
import Stagecraft.Proofs.Tweens.Records

namespace Stagecraft

variable {κ K : Type}

-- ======================================================= anchors by name

namespace Actor

/-- The anchors of both axes. -/
def anchor (a : Actor K) : AnchorX K × AnchorY K := (a.anchorX, a.anchorY)

/-- The anchors of one name per axis, if both are names. -/
def anchors? (x y : String) : Option (AnchorX K × AnchorY K) :=
  (AnchorX.parse x : Except (Fault K) _).toOption.bind fun x =>
    (AnchorY.parse y : Except (Fault K) _).toOption.map fun y => (x, y)

theorem toOption_setAnchorName (a : Actor K) (name : String) :
    (a.setAnchorName name).toOption
      = ((AnchorPoint.find? name).map fun p => (p.horizontal, p.vertical)).map fun z =>
          a.setAnchor z.1 z.2 := by
  unfold setAnchorName AnchorPoint.parse
  cases AnchorPoint.find? name <;> rfl

theorem toOption_setAnchorNames (a : Actor K) (x y : String) :
    (a.setAnchorNames x y).toOption = (anchors? x y).map fun z => a.setAnchor z.1 z.2 := by
  unfold setAnchorNames anchors?
  cases (AnchorX.parse x : Except (Fault K) _) with
  | error f => rfl
  | ok x => cases (AnchorY.parse y : Except (Fault K) _) <;> rfl

/-- The actor with other anchors, if there are any. -/
theorem map_setAnchor_getD (a : Actor K) (z : Option (AnchorX K × AnchorY K)) :
    (z.map fun z => a.setAnchor z.1 z.2).getD a
      = { a with anchorX := (z.getD a.anchor).1, anchorY := (z.getD a.anchor).2 } := by
  cases z <;> rfl

-- =============================================================== changes

/-- Puts an edge, a centre, an anchor point or the position of an actor somewhere. -/
inductive Move (K : Type) where
  | left (v : K)
  | top (v : K)
  | right (v : K)
  | bottom (v : K)
  | centerX (v : K)
  | centerY (v : K)
  | posX (v : K)
  | posY (v : K)
  | pos (v : K × K)
  | point (p : AnchorPoint) (v : K × K)

/-- What is done with one actor. -/
inductive Change (K : Type) where
  | rename (name : String)
  | move (m : Move K)
  | anchor (x : AnchorX K) (y : AnchorY K)
  | anchorPoint (p : AnchorPoint)
  | anchorName (name : String)
  | anchorNames (x y : String)

/-- The anchor that is set. A name that is refused sets none. -/
def Change.anchor? : Change K → Option (AnchorX K × AnchorY K)
  | anchor x y => some (x, y)
  | anchorPoint p => some (p.horizontal, p.vertical)
  | anchorName name => (AnchorPoint.find? name).map fun p => (p.horizontal, p.vertical)
  | anchorNames x y => anchors? x y
  | rename _ | move _ => none

/-- Whether the actor is anchored at a point of its box, by itself or by its name. -/
def Change.AnchorsAt (p : AnchorPoint) : Change K → Prop
  | anchorPoint q => q = p
  | anchorName name => Text.key name = p.name
  | _ => False

def Change.isMove : Change K → Bool
  | move _ => true
  | _ => false

theorem Change.AnchorsAt.anchor? {c : Change K} {p : AnchorPoint} (h : c.AnchorsAt p) :
    c.anchor? = some (p.horizontal, p.vertical) := by
  cases c with
  | anchorPoint q =>
      cases h
      rfl
  | anchorName name => exact congrArg (Option.map _) (AnchorPoint.find?_eq_some_iff.2 h)
  | rename | move | anchor | anchorNames => exact h.elim

end Actor

-- ============================================================= the scene

/-- Whether an actor is there with an image and an anchor. -/
def Stage.HasPinned (s : Stage K) (i : PuppetId) (x : ImageId × AnchorX K × AnchorY K) : Prop :=
  ∃ a, s.puppet? i = some (.actor a) ∧ a.pinned = x

/-- Images by name, and a stage. -/
structure Scene (K : Type) where
  gallery : Gallery
  stage : Stage K

namespace Scene

variable {sc : Scene K} {i : PuppetId} {a : Actor K}

def actor? (sc : Scene K) (i : PuppetId) : Option (Actor K) :=
  match sc.stage.puppet? i with
  | some (.actor a) => some a
  | _ => none

/-- Where an actor is. -/
def pos? (sc : Scene K) (i : PuppetId) : Option (K × K) := (sc.actor? i).map Actor.pos

theorem actor?_eq_some : sc.actor? i = some a ↔ sc.stage.puppet? i = some (.actor a) := by
  unfold actor?
  split
  next b h => simp [h]
  next h => simpa using h a

/-- Where no puppet changes the actors are the same. -/
theorem actor?_of_puppets {sc' : Scene K} (h : sc'.stage.puppets = sc.stage.puppets) :
    sc'.actor? i = sc.actor? i := by
  unfold actor? Stage.puppet?
  rw [h]

/-- An actor with a known image and anchor is an actor with this anchor. -/
theorem actor?_of_pinned {s : Stage K} (h : s.HasPinned i a.pinned) (g : Gallery) :
    ∃ b, (⟨g, s⟩ : Scene K).actor? i = some b ∧ b.anchor = a.anchor := by
  obtain ⟨b, hb, hpinned⟩ := h
  exact ⟨b, actor?_eq_some.2 hb, congrArg Prod.snd hpinned⟩

/-- What is done with images, with actors, and with everything that has attributes. -/
inductive Op (κ K : Type) where
  | register (name : String) (size : Size K)
  | registerAll (entries : List (String × Size K))
  | resize (name : String) (size : Size K)
  /-- Another size for the image of a handle. -/
  | reshape (image : ImageId) (size : Size K)
  | forget
  | change (actor : PuppetId) (c : Actor.Change K)
  | write (puppet : PuppetId) (name : String) (v : AttrValue K)
  /-- A step of all tweens of a queue. -/
  | play (q : TweenQueue κ K) (dt : K)

/-- The anchor that an operation sets for an actor. -/
def Op.anchor? (i : PuppetId) : Op κ K → Option (AnchorX K × AnchorY K)
  | change j c => if j = i then c.anchor? else none
  | _ => none

/-- Whether an operation may move an actor. -/
def Op.moves (i : PuppetId) : Op κ K → Bool
  | change j c => j == i && c.isMove
  | write j _ _ => j == i
  | play .. => true
  | _ => false

end Scene

variable [Field K] [LinearOrder K] [FloorRing K]

-- ====================================================== one actor changed

namespace Actor

/-- A point of the box lies at the position of an actor that is anchored there. -/
theorem point_of_anchor {a : Actor K} {p : AnchorPoint} (h : a.anchor = (p.horizontal, p.vertical))
    (s : Size K) : a.point s p = a.pos := by
  obtain ⟨hx, hy⟩ := Prod.mk.inj h
  rw [point_eq]
  show (a.posX - a.anchorX.resolve s.width + p.horizontal.resolve s.width,
    a.posY - a.anchorY.resolve s.height + p.vertical.resolve s.height) = a.pos
  rw [hx, hy, sub_add_cancel, sub_add_cancel]
  rfl

/-- The actor, of some size, after a move. -/
def Move.apply (s : Size K) (a : Actor K) : Move K → Actor K
  | left v => a.setLeft s v
  | top v => a.setTop s v
  | right v => a.setRight s v
  | bottom v => a.setBottom s v
  | centerX v => a.setCenterX s v
  | centerY v => a.setCenterY s v
  | posX v => { a with posX := v }
  | posY v => { a with posY := v }
  | pos v => a.setPos v
  | point p v => a.setPoint s p v

theorem Move.anchor_apply (s : Size K) (a : Actor K) (m : Move K) :
    (m.apply s a).anchor = a.anchor := by
  cases m <;> rfl

namespace Change

/-- The actor after a change. One that fails changes nothing. -/
def apply (g : Gallery) (s : Size K) (a : Actor K) : Change K → Actor K
  | rename name => (g.rename a name).toOption.getD a
  | move m => m.apply s a
  | anchor x y => a.setAnchor x y
  | anchorPoint p => a.setAnchorPoint p
  | anchorName name => (a.setAnchorName name).toOption.getD a
  | anchorNames x y => (a.setAnchorNames x y).toOption.getD a

/-- What is not a move is another image or another anchor. -/
theorem apply_cases (g : Gallery) (s : Size K) (a : Actor K) (c : Change K) :
    (∃ m, c = move m) ∨ ∃ image, c.apply g s a
      = { a with image, anchorX := (c.anchor?.getD a.anchor).1
                 anchorY := (c.anchor?.getD a.anchor).2 } := by
  cases c with
  | move m => exact .inl ⟨m, rfl⟩
  | anchor x y => exact .inr ⟨a.image, rfl⟩
  | anchorPoint p => exact .inr ⟨a.image, rfl⟩
  | rename name =>
      refine .inr ?_
      show ∃ image, (g.rename a name).toOption.getD a = { a with image }
      rw [Gallery.toOption_rename]
      cases g.find? name with
      | none => exact ⟨a.image, rfl⟩
      | some i => exact ⟨i, rfl⟩
  | anchorName name =>
      refine .inr ⟨a.image, ?_⟩
      show (a.setAnchorName name).toOption.getD a = _
      rw [toOption_setAnchorName, map_setAnchor_getD]
      rfl
  | anchorNames x y =>
      refine .inr ⟨a.image, ?_⟩
      show (a.setAnchorNames x y).toOption.getD a = _
      rw [toOption_setAnchorNames, map_setAnchor_getD]
      rfl

theorem anchor_apply (g : Gallery) (s : Size K) (a : Actor K) (c : Change K) :
    (c.apply g s a).anchor = c.anchor?.getD a.anchor := by
  rcases apply_cases g s a c with ⟨m, rfl⟩ | ⟨image, heq⟩
  · exact m.anchor_apply s a
  · rw [heq]
    rfl

theorem pos_apply (g : Gallery) (s : Size K) (a : Actor K) {c : Change K}
    (hc : c.isMove = false) : (c.apply g s a).pos = a.pos := by
  rcases apply_cases g s a c with ⟨m, rfl⟩ | ⟨image, heq⟩
  · cases hc
  · rw [heq]
    rfl

end Change

end Actor

theorem Stage.HasPinned.setAttr {s : Stage K} {i : PuppetId} {x : ImageId × AnchorX K × AnchorY K}
    (h : s.HasPinned i x) (j : PuppetId) (name : String) (v : AttrValue K) :
    (s.setAttr j name v).HasPinned i x := by
  obtain ⟨a, ha, hx⟩ := h
  unfold HasPinned
  rw [puppet?_setAttr, ha]
  split
  · exact ⟨_, rfl, (a.pinned_setAttr _ name v).trans hx⟩
  · exact ⟨a, rfl, hx⟩

-- ====================================================== one step and a run

namespace Scene

variable {sc : Scene K} {i j : PuppetId} {a : Actor K} {p : AnchorPoint}

/-- Where a point of the box of an actor is. -/
def point? (sc : Scene K) (i : PuppetId) (p : AnchorPoint) : Option (K × K) :=
  (sc.actor? i).map fun a => a.point (sc.stage.sizeOf a.image) p

/-- The scene once an actor, of the size that it has now, is changed. -/
def change (sc : Scene K) (j : PuppetId) (c : Actor.Change K) : Scene K :=
  match sc.actor? j with
  | some a =>
    let changed := c.apply sc.gallery (sc.stage.sizeOf a.image) a
    { sc with stage := sc.stage.setPuppet j (.actor changed) }
  | none => sc

theorem actor?_change_self (ha : sc.actor? i = some a) (c : Actor.Change K) :
    (sc.change i c).actor? i = some (c.apply sc.gallery (sc.stage.sizeOf a.image) a) := by
  have hpuppet : sc.stage.puppets[i.index]? = some (.actor a) := actor?_eq_some.1 ha
  obtain ⟨hlt, -⟩ := Array.getElem?_eq_some_iff.1 hpuppet
  rw [actor?_eq_some]
  unfold change
  rw [ha]
  exact Array.getElem?_setIfInBounds_self_of_lt hlt

theorem actor?_change_of_ne (h : j ≠ i) (c : Actor.Change K) :
    (sc.change j c).actor? i = sc.actor? i := by
  have hindex : j.index ≠ i.index := by
    intro heq
    cases i
    cases j
    exact h (congrArg _ heq)
  unfold change
  split
  · unfold actor? Stage.puppet? Stage.setPuppet
    rw [Array.getElem?_setIfInBounds_ne hindex]
  · rfl

/-- A point that an actor is anchored at is at its position. -/
theorem pos?_eq_point? (ha : sc.actor? i = some a) (h : a.anchor = (p.horizontal, p.vertical)) :
    sc.pos? i = sc.point? i p := by
  unfold pos? point?
  rw [ha]
  exact congrArg some (Actor.point_of_anchor h _).symm

variable [Curves K]

/-- The scene after an operation. One that fails changes nothing. -/
def Op.run (sc : Scene K) : Op κ K → Scene K
  | register name size =>
    let registered := (sc.gallery.register sc.stage name size).2
    ⟨registered.1, registered.2⟩
  | registerAll entries =>
    let registered := sc.gallery.registerAll sc.stage entries
    ⟨registered.1, registered.2⟩
  | resize name size =>
    { sc with stage := (sc.gallery.resize sc.stage name size).toOption.getD sc.stage }
  | reshape image size => { sc with stage := sc.stage.resize image size }
  | forget => { sc with gallery := .empty }
  | change j c => sc.change j c
  | write j name v => { sc with stage := sc.stage.setAttr j name v }
  | play q dt => { sc with stage := (q.advance dt sc.stage).2.2 }

/-- The scene after a list of operations. -/
def run (sc : Scene K) (ops : List (Op κ K)) : Scene K := ops.foldl Op.run sc

/-- After an operation an actor is still there, with the anchor that the operation sets or
else its own, and unless it may be moved at the same position. -/
theorem actor?_run (ha : sc.actor? i = some a) (op : Op κ K) :
    ∃ b, (op.run sc).actor? i = some b ∧ b.anchor = (op.anchor? i).getD a.anchor
      ∧ (op.moves i = false → b.pos = a.pos) := by
  have hsame (sc' : Scene K) (h : sc'.stage.puppets = sc.stage.puppets) :
      ∃ b, sc'.actor? i = some b ∧ b.anchor = a.anchor ∧ (false = false → b.pos = a.pos) :=
    ⟨a, (actor?_of_puppets h).trans ha, rfl, fun _ => rfl⟩
  have hpinned : sc.stage.HasPinned i a.pinned := ⟨a, actor?_eq_some.1 ha, rfl⟩
  cases op with
  | register name size => exact hsame _ (Gallery.puppets_register ..)
  | registerAll entries => exact hsame _ (Gallery.puppets_registerAll ..)
  | resize name size =>
      refine hsame _ ?_
      show ((sc.gallery.resize sc.stage name size).toOption.getD sc.stage).puppets = _
      cases h : sc.gallery.resize sc.stage name size with
      | error f => rfl
      | ok s => exact Gallery.puppets_resize h
  | reshape image size => exact hsame _ rfl
  | forget => exact hsame _ rfl
  | change j c =>
      by_cases hj : j = i
      · subst hj
        refine ⟨_, actor?_change_self ha c, ?_, fun hmoves => ?_⟩
        · rw [Actor.Change.anchor_apply]
          simp [Op.anchor?]
        · exact Actor.Change.pos_apply _ _ _ (by simpa [Op.moves] using hmoves)
      · refine ⟨a, (actor?_change_of_ne hj c).trans ha, ?_, fun _ => rfl⟩
        simp [Op.anchor?, hj]
  | write j name v =>
      by_cases hj : j = i
      · obtain ⟨b, hb, hanchor⟩ := actor?_of_pinned (hpinned.setAttr j name v) sc.gallery
        exact ⟨b, hb, hanchor, by simp [Op.moves, hj]⟩
      · refine ⟨a, actor?_eq_some.2 ?_, rfl, fun _ => rfl⟩
        exact (Stage.puppet?_setAttr ..).trans ((if_neg hj).trans (actor?_eq_some.1 ha))
  | play q dt =>
      -- tweens reach an actor through its attributes only
      have hplayed : (q.played dt sc.stage).HasPinned i a.pinned :=
        TweenQueue.played_induct (P := fun s : Stage K => s.HasPinned i a.pinned)
          (fun _ j name v h => h.setAttr j name v) hpinned q dt
      obtain ⟨b, hb, hanchor⟩ := actor?_of_pinned hplayed sc.gallery
      refine ⟨b, ?_, hanchor, by simp [Op.moves]⟩
      show (⟨sc.gallery, (q.advance dt sc.stage).2.2⟩ : Scene K).actor? i = some b
      rw [TweenQueue.advance_eq]
      exact hb

/-- After a list of operations an actor has the anchor that was set last. -/
theorem actor?_run_ops (ha : sc.actor? i = some a) (ops : List (Op κ K)) :
    ∃ b, (sc.run ops).actor? i = some b
      ∧ b.anchor = (ops.filterMap (Op.anchor? i)).getLast?.getD a.anchor := by
  induction ops generalizing sc a with
  | nil => exact ⟨a, ha, rfl⟩
  | cons op ops ih =>
      obtain ⟨b, hb, hset, -⟩ := actor?_run ha op
      obtain ⟨c, hc, hlast⟩ := ih hb
      refine ⟨c, hc, ?_⟩
      rw [hlast, hset, List.filterMap_cons]
      cases op.anchor? i with
      | none => rfl
      | some x => rw [List.getLast?_cons]; rfl

-- ========================================================= anchored actors

/-- What it means for an actor of a scene that it can be anchored at points of its box. -/
structure KeepsPoint (κ : Type) (sc : Scene K) (i : PuppetId) : Prop where
  lives (ops : List (Op κ K)) : ((sc.run ops).actor? i).isSome = true
  /-- Whatever is done, until another anchor is set. -/
  at_point (p : AnchorPoint) (c : Actor.Change K) (hc : c.AnchorsAt p) (ops : List (Op κ K))
    (hops : ∀ op ∈ ops, op.anchor? i = none) :
    (sc.run (.change i c :: ops)).pos? i = (sc.run (.change i c :: ops)).point? i p
  /-- Neither an anchor nor a size, a name or another image is a move. -/
  unmoved (op : Op κ K) (hop : op.moves i = false) : (op.run sc).pos? i = sc.pos? i

/-- The point at which an actor was anchored stays at its position through all changes of the
actor and of its image, up to the next anchor. -/
theorem anchored_points_stay_at_the_position (h : (sc.actor? i).isSome = true) :
    KeepsPoint κ sc i := by
  obtain ⟨a, ha⟩ := Option.isSome_iff_exists.1 h
  constructor
  case lives =>
      intro ops
      obtain ⟨b, hb, -⟩ := actor?_run_ops ha ops
      exact Option.isSome_of_eq_some hb
  case at_point =>
      intro p c hc ops hops
      obtain ⟨b, hb, hlast⟩ := actor?_run_ops ha (Op.change i c :: ops)
      have hset : (Op.change i c : Op κ K).anchor? i = some (p.horizontal, p.vertical) :=
        (if_pos rfl).trans hc.anchor?
      rw [List.filterMap_cons_some hset, List.filterMap_eq_nil_iff.2 hops] at hlast
      exact pos?_eq_point? hb hlast
  case unmoved =>
      intro op hop
      obtain ⟨b, hb, -, hpos⟩ := actor?_run ha op
      unfold pos?
      rw [hb, ha]
      exact congrArg some (hpos hop)

/-- An actor of an odd height, anchored by name, given a negative width, and moved. -/
theorem a_resized_actor_stays_at_its_point :
    let sc : Scene ℝ := ⟨.empty,
      { images := #[⟨"fox", ⟨4, 7⟩⟩], puppets := #[.actor (.new ⟨0⟩ ⟨4, 7⟩)] }⟩
    let ops : List (Op Unit ℝ) :=
      [.change ⟨0⟩ (.anchorName " MidRight"), .reshape ⟨0⟩ ⟨-3, 5 / 2⟩, .change ⟨0⟩ (.move (.left 2))]
    (sc.actor? ⟨0⟩).isSome = true ∧ ((sc.run ops).actor? ⟨0⟩).isSome = true
      ∧ (sc.run ops).pos? ⟨0⟩ = (sc.run ops).point? ⟨0⟩ .midRight := by
  intro sc ops
  have hactor : (sc.actor? ⟨0⟩).isSome = true := rfl
  have hkeeps : KeepsPoint Unit sc ⟨0⟩ := anchored_points_stay_at_the_position hactor
  have hname : Text.key " MidRight" = AnchorPoint.midRight.name := by decide +kernel
  refine ⟨hactor, hkeeps.lives ops, hkeeps.at_point .midRight (.anchorName " MidRight") hname _ ?_⟩
  simp [Op.anchor?, Actor.Change.anchor?]

end Scene

end Stagecraft
