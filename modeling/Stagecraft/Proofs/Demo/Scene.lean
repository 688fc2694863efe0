/-
How a demonstration begins and ends.

It begins with a game whose queues are empty (`Fresh`). A new game is such a
game, and loading images leaves it one. Whatever images there are, there is one
to show when the demonstration has prepared for it, so the actor can enter; and
an actor has what the tween is to move. At the end the actor is still there,
since whatever is played an actor stays an actor, and its position is told.
-/
import Stagecraft.Demo
import Stagecraft.Proofs.Frame.QueueCall
import Stagecraft.Proofs.Tweens.Records

namespace Stagecraft

variable {α : Type}

-- ============================================================= the actor

namespace Stage

/-- Whether the puppet of a handle is an actor. -/
def HasActor (s : Stage α) (i : PuppetId) : Prop := ∃ a, s.puppet? i = some (.actor a)

variable {s : Stage α} {i : PuppetId}

theorem HasActor.setAttr [Scalar α] (h : s.HasActor i) (j : PuppetId) (name : String)
    (v : AttrValue α) : (s.setAttr j name v).HasActor i := by
  obtain ⟨a, ha⟩ := h
  unfold HasActor
  rw [puppet?_setAttr, ha]
  split
  · exact ⟨a.setAttr (s.sizeOf a.image) name v, rfl⟩
  · exact ⟨a, rfl⟩

/-- An actor stays an actor whatever is played. -/
theorem HasActor.played {κ : Type} [Elementary α] (h : s.HasActor i) (q : TweenQueue κ α)
    (dt : α) : (q.played dt s).HasActor i :=
  TweenQueue.played_induct (P := fun s : Stage α => s.HasActor i)
    (fun _ j name v hs => hs.setAttr j name v) h q dt

end Stage

namespace Demo

variable [Elementary α] {c : Config α} {g : Game Cue (Record α) α}

-- =========================================================== the beginning

/-- A game whose queues are empty and whose time has not begun, with images of any
kind. -/
structure Fresh (c : Config α) (g : Game Cue (Record α) α) : Prop where
  awake : g.paused = false
  config : ∃ marked, g.world.config = some ⟨c, marked⟩
  time : g.world.time = .start c.timeScale
  clock : g.world.clock = some .empty
  tweens : g.world.tweens = some .empty

theorem fresh_new (c : Config α) (host : Record α) : Fresh c (.new c host) :=
  ⟨rfl, ⟨true, rfl⟩, rfl, rfl, rfl⟩

/-- Loading images changes images and the record alone. -/
theorem fresh_loadImages {c : Config Float} {g : Game Cue (Record Float) Float} (h : Fresh c g)
    (read : FileReader) : Fresh c (g.loadImages read).2 := by
  unfold Game.loadImages
  split
  · exact h
  · unfold World.loadManifest
    dsimp only
    split
    · unfold World.registerManifest
      dsimp only
      rw [World.foldl_note]
      exact ⟨h.awake, h.config, h.time, h.clock, h.tweens⟩
    · exact ⟨h.awake, h.config, h.time, h.clock, h.tweens⟩

theorem config_eq {marked : Bool} (h : g.world.config = some ⟨c, marked⟩) : g.config = c := by
  unfold Game.config
  rw [h]

/-- There is an image to show when the demonstration has prepared for it. -/
theorem get_prepare (w : World Cue (Record α) α) :
    ∃ id, (prepare w).galleryOrNew.get image = (.ok id : Except (Fault α) ImageId) := by
  have hfind : ((prepare w).galleryOrNew.find? image).isSome = true := by
    unfold prepare
    split
    next hthere => exact hthere
    next hmissing =>
      have hnone : w.galleryOrNew.find? image = none := by
        simpa [Gallery.contains] using hmissing
      have hlast : ((w.registerImage image ⟨66.0, 92.0⟩).2.galleryOrNew.find? image).isSome
          = true := by
        unfold World.registerImage Gallery.register
        rw [hnone]
        simp [World.galleryOrNew, Gallery.find?, image]
      exact hlast
  obtain ⟨id, hid⟩ := Option.isSome_iff_exists.1 hfind
  refine ⟨id, ?_⟩
  unfold Gallery.get
  rw [hid]

/-- The actor can enter, which changes neither the queues nor what was said. -/
theorem enter_ok (h : Fresh c g) :
    ∃ p g', enter g = .ok (p, g') ∧ Fresh c g' ∧ g'.world.stage.HasActor p
      ∧ g'.world.host = g.world.host := by
  have hprepare : (prepare g.world).time = g.world.time
      ∧ (prepare g.world).config = g.world.config ∧ (prepare g.world).clock = g.world.clock
      ∧ (prepare g.world).tweens = g.world.tweens ∧ (prepare g.world).host = g.world.host := by
    unfold prepare
    split <;> exact ⟨rfl, rfl, rfl, rfl, rfl⟩
  obtain ⟨htime, hconfig, hclock, htweens, hhost⟩ := hprepare
  obtain ⟨id, hid⟩ := get_prepare g.world
  unfold enter
  dsimp only
  rw [hid]
  refine ⟨_, _, rfl, ⟨h.awake, ?_, ?_, ?_, ?_⟩, ?_, ?_⟩
  · exact h.config.imp fun _ hc => hconfig.trans hc
  · exact htime.trans h.time
  · exact hclock.trans h.clock
  · exact htweens.trans h.tweens
  · exact ⟨_, Array.getElem?_push_size⟩
  · exact hhost

/-- An actor has a position and an angle for the tween to move. -/
theorem isEmpty_trackAll {s : Stage α} {p : PuppetId} (h : s.HasActor p)
    (width angle : α) :
    (Tween.trackAll (s.attr? p) [("posx", .scalar width), ("angle", .scalar angle)]).isEmpty
      = false := by
  obtain ⟨a, ha⟩ := h
  have hposx : s.attr? p "posx" = some (.scalar a.posX) := by
    unfold Stage.attr?
    rw [ha]
    rfl
  have hangle : s.attr? p "angle" = some (.scalar a.angle) := by
    unfold Stage.attr?
    rw [ha]
    rfl
  simp [Tween.trackAll, Tween.track, hposx, hangle, AttrValue.sameShape]

-- ================================================================= the end

/-- At the end the position of the actor is told. -/
theorem conclude_host {p : PuppetId} (h : g.world.stage.HasActor p) :
    ∃ pos topLeft, (conclude g p).world.host = g.world.host.push
      (.line (.summary g.world.time.frameCount g.world.time.elapsed pos topLeft)) := by
  obtain ⟨a, ha⟩ := h
  unfold conclude
  dsimp only
  rw [ha]
  exact ⟨_, _, rfl⟩

end Demo

end Stagecraft
