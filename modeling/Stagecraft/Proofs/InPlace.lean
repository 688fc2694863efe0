/-
A change that fails leaves no trace.

The programs that change something in place make their checks and their
writes one by one, so that one of them could stop with a part of it written.
None does. Each of them comes to the same as an operation that computes the
whole new value beforehand (`Vec2.normalizing_eq` and its like), and such an
operation has nothing to write where it fails. For the queues and the images
this is not all there is to it: what a world lacks is made before the first
check, and only a world that has it is the same afterwards.

# Requests

All that can be asked for and refused is a `Request`, made of a world. Which
fault it is refused with is known beforehand: of the checks that it makes
(`Request.checks`) the first that finds one decides. So a request is either
carried out, or refused with this fault and nothing else changed.
-/
import Stagecraft.InPlace
import Stagecraft.Proofs.Frame.QueueCall

namespace Stagecraft

section Change

variable {ε σ β γ : Type}

-- ================================================ programs and operations

/-- An operation without its answer. -/
def unanswered (outcome : Except ε β × σ) : Except ε Unit × σ :=
  (outcome.1.map fun _ => (), outcome.2)

theorem run_inPlace (f : σ → Except ε σ) (s : σ) :
    (inPlace f).run s
      = match f s with
        | .ok s' => .ok () s'
        | .error e => .error e s :=
  rfl

theorem run_answering_eq_error_iff {f : σ → Except ε β × σ} {s s' : σ} {e : ε} :
    (answering f).run s = .error e s' ↔ f s = (.error e, s') := by
  unfold answering EStateM.run
  dsimp only
  obtain ⟨answer | b, s''⟩ := f s
  · simp
  · simp

theorem discard_answering (f : σ → Except ε β × σ) :
    Functor.discard (answering f) = answering fun s => unanswered (f s) := by
  funext s
  show (match answering f s with
    | .ok _ s' => EStateM.Result.ok () s'
    | .error e s' => .error e s') = _
  unfold answering unanswered
  dsimp only
  obtain ⟨answer | b, s'⟩ := f s <;> rfl

/-- A computation in two steps is looked at step by step. -/
theorem ofExcept_bind (c : Except ε β) (f : β → Except ε γ) :
    (ofExcept (c >>= f) : EStateM ε σ γ) = ofExcept c >>= fun b => ofExcept (f b) := by
  cases c <;> rfl

theorem run_ofExcept (c : Except ε β) (s : σ) :
    (ofExcept c : EStateM ε σ β).run s
      = match c with
        | .ok b => .ok b s
        | .error e => .error e s := by
  cases c <;> rfl

/-- What a program does that prepares the state, makes a check and goes on. -/
theorem run_checked (prepare : σ → σ) (check : Except ε β) (rest : β → EStateM ε σ γ) (s : σ) :
    (do modify prepare; rest (← ofExcept check)).run s
      = match check with
        | .ok b => (rest b).run (prepare s)
        | .error e => .error e (prepare s) := by
  cases check <;> rfl

-- ================================================ checks before any write

/-- The fault that a computation ends with. -/
def fault? : Except ε β → Option ε
  | .error e => some e
  | .ok _ => none

@[simp] theorem fault?_map (f : β → γ) (c : Except ε β) : fault? (c.map f) = fault? c := by
  cases c <;> rfl

/-- Of two checks in a row the first that finds a fault decides. -/
theorem fault?_bind {c : Except ε β} {f : β → Except ε γ} {rest : Option ε}
    (h : ∀ b, fault? (f b) = rest) : fault? (c >>= f) = [fault? c, rest].findSome? id := by
  cases c with
  | error e => rfl
  | ok b =>
      refine (h b).trans ?_
      cases rest <;> rfl

theorem findSome?_single {found : Option ε} : [found].findSome? id = found := by
  cases found <;> rfl

/-- Whether this fault decides what comes out of an operation on a state: the fault with
the state as it was, or a success if there is no fault. -/
def DecidedBy (fault : Option ε) (s : σ) (outcome : Except ε β × σ) : Prop :=
  match fault with
  | some e => outcome = (.error e, s)
  | none => ∃ b s', outcome = (.ok b, s')

variable {fault : Option ε} {s : σ} {outcome : Except ε β × σ}

theorem DecidedBy.error_iff (h : DecidedBy fault s outcome) (e : ε) (s' : σ) :
    outcome = (.error e, s') ↔ fault = some e ∧ s' = s := by
  cases fault with
  | none =>
      obtain ⟨b, s'', rfl⟩ := h
      exact ⟨nofun, nofun⟩
  | some found =>
      have hfound : outcome = (.error found, s) := h
      rw [hfound, Prod.mk.injEq, Except.error.injEq, Option.some.injEq]
      exact and_congr_right' eq_comm

theorem DecidedBy.single (h : DecidedBy fault s outcome) :
    DecidedBy ([fault].findSome? id) s outcome := by
  rwa [findSome?_single]

theorem DecidedBy.unanswered (h : DecidedBy fault s outcome) :
    DecidedBy fault s (unanswered outcome) := by
  cases fault with
  | none =>
      obtain ⟨b, s', rfl⟩ := h
      exact ⟨(), s', rfl⟩
  | some e => exact congrArg Stagecraft.unanswered (show outcome = (.error e, s) from h)

end Change

variable {κ σ α : Type}

-- ================================================================ vectors

section Vectors

variable [Elementary α]

/-- The fault of doing something with a vector that may not be without length. -/
def tooShort? (deed : String) (length : α) : Option (Fault α) :=
  if length ≤ 0.0 then some (.zeroLength deed) else none

namespace Vec2

theorem normalizing_eq : (normalizing : EStateM (Fault α) (Vec2 α) Unit) = inPlace normalize := by
  funext v
  unfold inPlace normalize
  show (if v.length ≤ 0.0 then _ else _ : EStateM (Fault α) (Vec2 α) Unit) v = _
  split <;> rfl

theorem scaling_eq (length : α) : scaling length = inPlace (·.scaleToLength length) := by
  funext v
  unfold inPlace scaleToLength
  show (if v.length ≤ 0.0 then _ else _ : EStateM (Fault α) (Vec2 α) Unit) v = _
  dsimp only
  split <;> rfl

theorem reflecting_eq (normal : Vec2 α) : reflecting normal = inPlace (·.reflect normal) := by
  funext v
  unfold reflecting inPlace reflect
  cases normal.normalize <;> rfl

end Vec2

namespace Vec3

theorem normalizing_eq : (normalizing : EStateM (Fault α) (Vec3 α) Unit) = inPlace normalize := by
  funext v
  unfold inPlace normalize
  show (if v.length ≤ 0.0 then _ else _ : EStateM (Fault α) (Vec3 α) Unit) v = _
  split <;> rfl

theorem scaling_eq (length : α) : scaling length = inPlace (·.scaleToLength length) := by
  funext v
  unfold inPlace scaleToLength
  show (if v.length ≤ 0.0 then _ else _ : EStateM (Fault α) (Vec3 α) Unit) v = _
  dsimp only
  split <;> rfl

theorem reflecting_eq (normal : Vec3 α) : reflecting normal = inPlace (·.reflect normal) := by
  funext v
  unfold reflecting inPlace reflect
  cases normal.normalize <;> rfl

theorem rotating_eq (radians : α) (axis : Vec3 α) :
    rotating radians axis = inPlace (·.rotateRadians radians axis) := by
  funext v
  unfold rotating inPlace rotateRadians
  split <;> rfl

end Vec3

/-- A change that only a vector with a length, or a normal with one, allows. -/
inductive VectorChange (V α : Type) where
  | normalize
  | scaleToLength (length : α)
  | reflect (normal : V)

namespace VectorChange

def inPlane : VectorChange (Vec2 α) α → Vec2 α → Except (Fault α) (Vec2 α)
  | normalize, v => v.normalize
  | scaleToLength length, v => v.scaleToLength length
  | reflect normal, v => v.reflect normal

def inSpace : VectorChange (Vec3 α) α → Vec3 α → Except (Fault α) (Vec3 α)
  | normalize, v => v.normalize
  | scaleToLength length, v => v.scaleToLength length
  | reflect normal, v => v.reflect normal

/-- The change in the plane, step by step. -/
def planeSteps : VectorChange (Vec2 α) α → EStateM (Fault α) (Vec2 α) Unit
  | normalize => Vec2.normalizing
  | scaleToLength length => Vec2.scaling length
  | reflect normal => Vec2.reflecting normal

/-- The change in space, step by step. -/
def spaceSteps : VectorChange (Vec3 α) α → EStateM (Fault α) (Vec3 α) Unit
  | normalize => Vec3.normalizing
  | scaleToLength length => Vec3.scaling length
  | reflect normal => Vec3.reflecting normal

/-- The one check that is made: on the length of the vector, or of the normal. -/
def fault? {V : Type} (length : V → α) (v : V) : VectorChange V α → Option (Fault α)
  | normalize => tooShort? "normalize" (length v)
  | scaleToLength _ => tooShort? "scale" (length v)
  | reflect normal => tooShort? "reflect off" (length normal)

theorem planeSteps_eq (c : VectorChange (Vec2 α) α) : c.planeSteps = inPlace c.inPlane := by
  cases c with
  | normalize => exact Vec2.normalizing_eq
  | scaleToLength length => exact Vec2.scaling_eq length
  | reflect normal => exact Vec2.reflecting_eq normal

theorem spaceSteps_eq (c : VectorChange (Vec3 α) α) : c.spaceSteps = inPlace c.inSpace := by
  cases c with
  | normalize => exact Vec3.normalizing_eq
  | scaleToLength length => exact Vec3.scaling_eq length
  | reflect normal => exact Vec3.reflecting_eq normal

theorem fault?_inPlane (c : VectorChange (Vec2 α) α) (v : Vec2 α) :
    Stagecraft.fault? (c.inPlane v) = c.fault? Vec2.length v := by
  cases c with
  | normalize =>
      unfold inPlane Vec2.normalize fault? tooShort?
      dsimp only
      split <;> rfl
  | scaleToLength length =>
      unfold inPlane Vec2.scaleToLength fault? tooShort?
      dsimp only
      split <;> rfl
  | reflect normal =>
      unfold inPlane Vec2.reflect Vec2.normalize fault? tooShort?
      dsimp only
      split_ifs <;> rfl

theorem fault?_inSpace (c : VectorChange (Vec3 α) α) (v : Vec3 α) :
    Stagecraft.fault? (c.inSpace v) = c.fault? Vec3.length v := by
  cases c with
  | normalize =>
      unfold inSpace Vec3.normalize fault? tooShort?
      dsimp only
      split <;> rfl
  | scaleToLength length =>
      unfold inSpace Vec3.scaleToLength fault? tooShort?
      dsimp only
      split <;> rfl
  | reflect normal =>
      unfold inSpace Vec3.reflect Vec3.normalize fault? tooShort?
      dsimp only
      split_ifs <;> rfl

end VectorChange

/-- A turn is refused for an axis that is shorter than the tolerance. -/
def noAxis? (axis : Vec3 α) : Option (Fault α) :=
  if axis.length < Scalar.angleTolerance then some (.zeroLength "rotate around") else none

theorem fault?_rotateRadians (v : Vec3 α) (radians : α) (axis : Vec3 α) :
    fault? (v.rotateRadians radians axis) = noAxis? axis := by
  unfold Vec3.rotateRadians noAxis?
  split <;> rfl

end Vectors

-- ================================================================= actors

namespace Actor

theorem switchingImage_eq (g : Gallery) (name : String) :
    (switchingImage g name : EStateM (Fault α) (Actor α) Unit) = inPlace (g.rename · name) := by
  funext a
  unfold switchingImage inPlace Gallery.rename
  cases (g.get name : Except (Fault α) ImageId) <;> rfl

theorem anchoring_eq (name : String) :
    (anchoring name : EStateM (Fault α) (Actor α) Unit) = inPlace (·.setAnchorName name) := by
  funext a
  unfold anchoring inPlace setAnchorName
  cases (AnchorPoint.parse name : Except (Fault α) AnchorPoint) <;> rfl

theorem anchoringAxes_eq (x y : String) :
    (anchoringAxes x y : EStateM (Fault α) (Actor α) Unit) = inPlace (·.setAnchorNames x y) := by
  funext a
  unfold anchoringAxes inPlace setAnchorNames
  cases (AnchorX.parse x : Except (Fault α) (AnchorX α)) with
  | error f => rfl
  | ok x => cases (AnchorY.parse y : Except (Fault α) (AnchorY α)) <;> rfl

theorem fault?_setAnchorNames (a : Actor α) (x y : String) :
    fault? (a.setAnchorNames x y)
      = [fault? (AnchorX.parse x : Except (Fault α) (AnchorX α)),
          fault? (AnchorY.parse y : Except (Fault α) (AnchorY α))].findSome? id := by
  unfold setAnchorNames
  refine fault?_bind fun x => ?_
  cases (AnchorY.parse y : Except (Fault α) (AnchorY α)) <;> rfl

end Actor

-- ============================================================== the world

namespace Puppet

variable {b : Puppet α}

theorem eq_of_vec2? {v : Vec2 α} (h : b.vec2? = some v) : vec2 v = b := by
  cases b <;> cases h
  rfl

theorem eq_of_vec3? {v : Vec3 α} (h : b.vec3? = some v) : vec3 v = b := by
  cases b <;> cases h
  rfl

theorem eq_of_actor? {a : Actor α} (h : b.actor? = some a) : actor a = b := by
  cases b <;> cases h
  rfl

end Puppet

namespace World

-- ================================================================ puppets

/-- Puts another puppet of the same kind in the place of one. -/
def changePuppet {ε τ : Type} (p : PuppetId) (read : Puppet α → Option τ) (put : τ → Puppet α)
    (f : τ → Except ε τ) (w : World κ σ α) : Except ε Unit × World κ σ α :=
  match (w.stage.puppet? p).bind read with
  | none => (.ok (), w)
  | some t =>
    match f t with
    | .ok t => (.ok (), { w with stage := w.stage.setPuppet p (put t) })
    | .error e => (.error e, w)

theorem setPuppet_self {s : Stage α} {p : PuppetId} {b : Puppet α} (h : s.puppet? p = some b) :
    s.setPuppet p b = s := by
  obtain ⟨hlt, hb⟩ := Array.getElem?_eq_some_iff.1 h
  unfold Stage.setPuppet
  rw [Array.setIfInBounds_def, dif_pos hlt, ← hb, Array.set_getElem_self]

variable {ε τ : Type} {read : Puppet α → Option τ} {put : τ → Puppet α}

/-- A puppet that is put back as it was read leaves the stage as it was. -/
theorem onPuppet_inPlace (hput : ∀ {b t}, read b = some t → put t = b) (p : PuppetId)
    (f : τ → Except ε τ) :
    (onPuppet p read put (inPlace f) : EStateM ε (World κ σ α) Unit)
      = answering (changePuppet p read put f) := by
  funext w
  unfold onPuppet answering changePuppet
  cases hread : (w.stage.puppet? p).bind read with
  | none => rfl
  | some t =>
      obtain ⟨b, hb, ht⟩ := Option.bind_eq_some_iff.1 hread
      dsimp only
      rw [run_inPlace]
      cases f t with
      | ok t' => rfl
      | error e =>
          -- the puppet is written back even so, but as it was read
          dsimp only
          rw [hput ht, setPuppet_self hb]

/-- The checks of a change to a puppet of one kind, if it is there. -/
def checksOn {β : Type} (w : World κ σ α) (p : PuppetId) (read : Puppet α → Option τ)
    (checks : τ → List (Option β)) : List (Option β) :=
  ((w.stage.puppet? p).bind read).elim [] checks

theorem decidedBy_changePuppet (w : World κ σ α) (p : PuppetId) (read : Puppet α → Option τ)
    (put : τ → Puppet α) (f : τ → Except ε τ) {checks : τ → List (Option ε)}
    (h : ∀ t, fault? (f t) = (checks t).findSome? id) :
    DecidedBy ((w.checksOn p read checks).findSome? id) w (changePuppet p read put f w) := by
  unfold checksOn changePuppet
  cases (w.stage.puppet? p).bind read with
  | none => exact ⟨(), w, rfl⟩
  | some t =>
      rw [Option.elim_some, ← h t]
      dsimp only
      cases f t with
      | ok t' => exact ⟨(), _, rfl⟩
      | error e => rfl

-- ================================================================= queues

/-- A world that has a clock needs no new one. -/
theorem with_clockOrNew {w : World κ σ α} (h : w.clock.isSome) :
    { w with clock := some w.clockOrNew } = w := by
  obtain ⟨q, hq⟩ := Option.isSome_iff_exists.1 h
  cases w
  cases hq
  rfl

theorem fault?_withEasing (t : Tween κ α) (easing : Option String) :
    fault? (t.withEasing easing)
      = easing.bind fun name => fault? (Easing.parse name : Except (Fault α) Easing) := by
  cases easing with
  | none => rfl
  | some name =>
      unfold Tween.withEasing
      rw [fault?_map, Option.bind_some]

theorem fault?_newTween [Elementary α] (w : World κ σ α) (target : PuppetId) (duration : α)
    (requests : List (String × AttrValue α)) (easing : Option String) (onComplete : Option κ) :
    fault? (w.newTween target duration requests easing onComplete)
      = [fault? (ensurePositive "duration" duration),
          easing.bind fun name => fault? (Easing.parse name : Except (Fault α) Easing)].findSome?
            id := by
  have hnew : fault? (Tween.new w.stage target duration requests : Except (Fault α) (Tween κ α))
      = fault? (ensurePositive "duration" duration) := fault?_map _ _
  rw [← hnew]
  refine fault?_bind fun t => ?_
  rw [← fault?_withEasing t easing]
  cases t.withEasing easing <;> rfl

section Queues

variable [Elementary α] [Journal (Notice κ α) σ]

/-- An edit of the clock step by step: a clock is made where there is none, the delay is
looked at, and what is written after that is the edit. -/
private theorem run_editing {w : World κ σ α} {edit : Clock κ α → Except (Fault α) (Clock κ α)}
    {notes : List (Notice κ α)} {what : String} {delay : α} {f : α → Clock κ α}
    {rest : α → EStateM (Fault α) (World κ σ α) Unit}
    (hedit : edit w.clockOrNew = (ensurePositive what delay).map f)
    (hrest : isDelay delay = true → (rest delay).run { w with clock := some w.clockOrNew }
      = .ok () (notes.foldl note { w with clock := some (f delay) })) :
    (do
      modify fun w : World κ σ α => { w with clock := some w.clockOrNew }
      rest (← ofExcept (ensurePositive what delay))) w
      = answering (·.editClock edit notes) w := by
  refine (run_checked _ _ rest w).trans ?_
  unfold answering editClock
  dsimp only
  rw [hedit]
  cases hdelay : isDelay delay with
  | true =>
      rw [ensurePositive_of_isDelay hdelay]
      exact hrest hdelay
  | false =>
      obtain ⟨fault, hfault⟩ := ensurePositive_of_not_isDelay hdelay what
      rw [hfault]
      rfl

theorem scheduling_eq (c : κ) (delay : α) :
    (scheduling c delay : EStateM (Fault α) (World κ σ α) Unit) = answering (·.schedule c delay) :=
  funext fun _ => run_editing rfl fun _ => rfl

theorem schedulingInterval_eq (c : κ) (interval : α) :
    (schedulingInterval c interval : EStateM (Fault α) (World κ σ α) Unit)
      = answering (·.scheduleInterval c interval) :=
  funext fun _ => run_editing rfl fun _ => rfl

/-- When the entries of the callback are dropped the delay has been found good, so the
second look at it cannot fail. -/
theorem schedulingUniquely_eq [DecidableEq κ] (c : κ) (delay : α) :
    (schedulingUniquely c delay : EStateM (Fault α) (World κ σ α) Unit)
      = answering (·.scheduleUnique c delay) := by
  funext w
  refine run_editing rfl fun hdelay => ?_
  let made : World κ σ α := { w with clock := some w.clockOrNew }
  have hsecond (w : World κ σ α) : (scheduling c delay).run w
      = .ok () { w.note (.callScheduled c delay) with
          clock := some ⟨w.clockOrNew.queue ++ [⟨c, delay, 0.0⟩]⟩ } := by
    unfold scheduling
    rw [run_checked, ensurePositive_of_isDelay hdelay]
    rfl
  calc (do modify fun w : World κ σ α => (w.unschedule c).2
           scheduling c delay).run made
      = (scheduling c delay).run (made.unschedule c).2 := rfl
    _ = _ := hsecond _
    _ = _ := by
      simp only [unschedule, List.foldl_append, foldl_note]
      rfl

theorem animating_eq (target : PuppetId) (duration : α) (requests : List (String × AttrValue α))
    (easing : Option String) (onComplete : Option κ) :
    (animating target duration requests easing onComplete :
        EStateM (Fault α) (World κ σ α) (Option TweenId))
      = answering (·.animate target duration requests easing onComplete) := by
  funext w
  -- the two checks one after the other are the check of the new tween
  have hchecks : (animating target duration requests easing onComplete).run w
      = EStateM.run (ofExcept (w.newTween target duration requests easing onComplete)
          >>= fun t => modifyGet (World.animateTween · t)) w := by
    unfold animating newTween
    rw [EStateM.run_bind, EStateM.run_get]
    simp only [ofExcept_bind, bind_assoc]
    rfl
  refine hchecks.trans ?_
  rw [EStateM.run_bind, run_ofExcept]
  unfold answering animate
  dsimp only
  cases w.newTween target duration requests easing onComplete <;> rfl

theorem decidedBy_editClock {w : World κ σ α} (hclock : w.clock.isSome)
    {edit : Clock κ α → Except (Fault α) (Clock κ α)} (notes : List (Notice κ α)) {what : String}
    {delay : α} {f : α → Clock κ α}
    (hedit : edit w.clockOrNew = (ensurePositive what delay).map f) :
    DecidedBy (fault? (ensurePositive what delay)) w (w.editClock edit notes) := by
  unfold editClock
  rw [hedit]
  cases ensurePositive what delay with
  | ok delay => exact ⟨(), _, rfl⟩
  | error f => exact congrArg (Prod.mk _) (with_clockOrNew hclock)

theorem decidedBy_animate (w : World κ σ α) (target : PuppetId) (duration : α)
    (requests : List (String × AttrValue α)) (easing : Option String) (onComplete : Option κ) :
    DecidedBy (fault? (w.newTween target duration requests easing onComplete)) w
      (w.animate target duration requests easing onComplete) := by
  unfold animate
  cases w.newTween target duration requests easing onComplete with
  | ok t => exact ⟨_, _, rfl⟩
  | error f => rfl

end Queues

-- ================================================================= images

theorem resizing_eq (name : String) (size : Size α) :
    (resizing name size : EStateM (Fault α) (World κ σ α) Unit)
      = answering (·.resizeImage name size) := by
  funext w
  show EStateM.run (ofExcept (w.galleryOrNew.get name) >>= fun i =>
      modify fun w => { w with stage := w.stage.resize i size })
    { w with gallery := some w.galleryOrNew } = _
  rw [EStateM.run_bind, run_ofExcept]
  unfold answering resizeImage Gallery.resize
  dsimp only
  cases (w.galleryOrNew.get name : Except (Fault α) ImageId) <;> rfl

theorem loadingManifest_eq [Journal (Notice κ Float) σ] (text : String) :
    (loadingManifest text : EStateM (Fault Float) (World κ σ Float) Nat)
      = answering (·.loadManifestText text) := by
  funext w
  refine (run_checked _ _ _ w).trans ?_
  unfold answering loadManifestText
  dsimp only
  cases Manifest.parse text <;> rfl

/-- A world that has a gallery needs no new one. -/
theorem with_galleryOrNew {w : World κ σ α} (h : w.gallery.isSome) :
    { w with gallery := some w.galleryOrNew } = w := by
  obtain ⟨g, hg⟩ := Option.isSome_iff_exists.1 h
  cases w
  cases hg
  rfl

theorem decidedBy_resizeImage {w : World κ σ α} (hgallery : w.gallery.isSome) (name : String)
    (size : Size α) :
    DecidedBy (fault? (w.galleryOrNew.get name)) w (w.resizeImage name size) := by
  unfold resizeImage Gallery.resize
  cases w.galleryOrNew.get name with
  | ok i => exact ⟨(), _, rfl⟩
  | error f => exact congrArg (Prod.mk _) (with_galleryOrNew hgallery)

theorem decidedBy_loadManifestText [Journal (Notice κ Float) σ] {w : World κ σ Float}
    (hgallery : w.gallery.isSome) (text : String) :
    DecidedBy (fault? ((Manifest.parse text).mapError .ofManifest)) w
      (w.loadManifestText text) := by
  unfold loadManifestText
  cases Manifest.parse text with
  | ok m => exact ⟨_, _, rfl⟩
  | error f => exact congrArg (Prod.mk _) (with_galleryOrNew hgallery)

end World

-- =============================================================== requests

/-- What can be asked of a world and refused. -/
inductive Request (κ : Type) where
  | schedule (c : κ) (delay : Float)
  | scheduleUnique (c : κ) (delay : Float)
  | scheduleInterval (c : κ) (interval : Float)
  | animate (target : PuppetId) (duration : Float) (requests : List (String × AttrValue Float))
      (easing : Option String) (onComplete : Option κ)
  | switchImage (p : PuppetId) (name : String)
  | anchor (p : PuppetId) (name : String)
  | anchorAxes (p : PuppetId) (x y : String)
  | changeVec2 (p : PuppetId) (change : VectorChange (Vec2 Float) Float)
  | changeVec3 (p : PuppetId) (change : VectorChange (Vec3 Float) Float)
  | rotate (p : PuppetId) (radians : Float) (axis : Vec3 Float)
  | resize (name : String) (size : Size Float)
  | loadManifest (text : String)

namespace Request

variable [DecidableEq κ] [Journal (Notice κ Float) σ]

/-- The request carried out at once, as far as it is. -/
def perform (w : World κ σ Float) : Request κ → Except (Fault Float) Unit × World κ σ Float
  | schedule c delay => w.schedule c delay
  | scheduleUnique c delay => w.scheduleUnique c delay
  | scheduleInterval c interval => w.scheduleInterval c interval
  | animate target duration requests easing onComplete =>
    unanswered (w.animate target duration requests easing onComplete)
  | switchImage p name => w.changePuppet p Puppet.actor? .actor (w.galleryOrNew.rename · name)
  | anchor p name => w.changePuppet p Puppet.actor? .actor (·.setAnchorName name)
  | anchorAxes p x y => w.changePuppet p Puppet.actor? .actor (·.setAnchorNames x y)
  | changeVec2 p change => w.changePuppet p Puppet.vec2? .vec2 change.inPlane
  | changeVec3 p change => w.changePuppet p Puppet.vec3? .vec3 change.inSpace
  | rotate p radians axis =>
    w.changePuppet p Puppet.vec3? .vec3 (·.rotateRadians radians axis)
  | resize name size => w.resizeImage name size
  | loadManifest text => unanswered (w.loadManifestText text)

/-- The request carried out step by step. -/
def steps : Request κ → EStateM (Fault Float) (World κ σ Float) Unit
  | schedule c delay => World.scheduling c delay
  | scheduleUnique c delay => World.schedulingUniquely c delay
  | scheduleInterval c interval => World.schedulingInterval c interval
  | animate target duration requests easing onComplete =>
    Functor.discard (World.animating target duration requests easing onComplete)
  | switchImage p name => do
    World.onPuppet p Puppet.actor? .actor (Actor.switchingImage (← get).galleryOrNew name)
  | anchor p name => World.onPuppet p Puppet.actor? .actor (Actor.anchoring name)
  | anchorAxes p x y => World.onPuppet p Puppet.actor? .actor (Actor.anchoringAxes x y)
  | changeVec2 p change => World.onPuppet p Puppet.vec2? .vec2 change.planeSteps
  | changeVec3 p change => World.onPuppet p Puppet.vec3? .vec3 change.spaceSteps
  | rotate p radians axis => World.onPuppet p Puppet.vec3? .vec3 (Vec3.rotating radians axis)
  | resize name size => World.resizing name size
  | loadManifest text => Functor.discard (World.loadingManifest text)

/-- What each of the checks of a request finds, in the order in which they are made. -/
def checks (w : World κ σ Float) : Request κ → List (Option (Fault Float))
  | schedule _ delay | scheduleUnique _ delay => [fault? (ensurePositive "delay" delay)]
  | scheduleInterval _ interval => [fault? (ensurePositive "interval" interval)]
  | animate _ duration _ easing _ =>
    [fault? (ensurePositive "duration" duration),
      easing.bind fun name => fault? (Easing.parse name : Except (Fault Float) Easing)]
  | switchImage p name =>
    w.checksOn p Puppet.actor? fun _ => [fault? (w.galleryOrNew.get name)]
  | anchor p name =>
    w.checksOn p Puppet.actor? fun _ =>
      [fault? (AnchorPoint.parse name : Except (Fault Float) AnchorPoint)]
  | anchorAxes p x y =>
    w.checksOn p Puppet.actor? fun _ =>
      [fault? (AnchorX.parse x : Except (Fault Float) (AnchorX Float)),
        fault? (AnchorY.parse y : Except (Fault Float) (AnchorY Float))]
  | changeVec2 p change => w.checksOn p Puppet.vec2? fun v => [change.fault? Vec2.length v]
  | changeVec3 p change => w.checksOn p Puppet.vec3? fun v => [change.fault? Vec3.length v]
  | rotate p _ axis => w.checksOn p Puppet.vec3? fun _ => [noAxis? axis]
  | resize name _ => [fault? (w.galleryOrNew.get name)]
  | loadManifest text => [fault? ((Manifest.parse text).mapError .ofManifest)]

/-- The fault that a request is refused with. -/
def fault? (w : World κ σ Float) (r : Request κ) : Option (Fault Float) :=
  (r.checks w).findSome? id

/-- Whether a request is made of the images as a whole. -/
def onGallery : Request κ → Bool
  | resize _ _ | loadManifest _ => true
  | _ => false

/-- Step by step a request comes to the same as at once. -/
theorem steps_eq (r : Request κ) :
    (r.steps : EStateM (Fault Float) (World κ σ Float) Unit) = answering (perform · r) := by
  cases r with
  | schedule c delay => exact World.scheduling_eq c delay
  | scheduleUnique c delay => exact World.schedulingUniquely_eq c delay
  | scheduleInterval c interval => exact World.schedulingInterval_eq c interval
  | animate target duration requests easing onComplete =>
      exact (congrArg Functor.discard (World.animating_eq ..)).trans (discard_answering _)
  | switchImage p name =>
      funext w
      show World.onPuppet p Puppet.actor? .actor (Actor.switchingImage w.galleryOrNew name) w = _
      rw [Actor.switchingImage_eq, World.onPuppet_inPlace Puppet.eq_of_actor?]
      rfl
  | anchor p name =>
      exact (congrArg _ (Actor.anchoring_eq name)).trans
        (World.onPuppet_inPlace Puppet.eq_of_actor? p _)
  | anchorAxes p x y =>
      exact (congrArg _ (Actor.anchoringAxes_eq x y)).trans
        (World.onPuppet_inPlace Puppet.eq_of_actor? p _)
  | changeVec2 p change =>
      exact (congrArg _ change.planeSteps_eq).trans
        (World.onPuppet_inPlace Puppet.eq_of_vec2? p _)
  | changeVec3 p change =>
      exact (congrArg _ change.spaceSteps_eq).trans
        (World.onPuppet_inPlace Puppet.eq_of_vec3? p _)
  | rotate p radians axis =>
      exact (congrArg _ (Vec3.rotating_eq radians axis)).trans
        (World.onPuppet_inPlace Puppet.eq_of_vec3? p _)
  | resize name size => exact World.resizing_eq name size
  | loadManifest text =>
      exact (congrArg Functor.discard (World.loadingManifest_eq text)).trans (discard_answering _)

/-- The checks of a request decide what comes out of it, in a world that has what it is
made of. -/
theorem decidedBy_perform {w : World κ σ Float} (hclock : w.clock.isSome) {r : Request κ}
    (hgallery : r.onGallery → w.gallery.isSome) : DecidedBy (r.fault? w) w (r.perform w) := by
  cases r with
  | schedule c delay =>
      have h : DecidedBy _ w (w.schedule c delay) := World.decidedBy_editClock hclock _ rfl
      exact h.single
  | scheduleUnique c delay =>
      have h : DecidedBy _ w (w.scheduleUnique c delay) := World.decidedBy_editClock hclock _ rfl
      exact h.single
  | scheduleInterval c interval =>
      have h : DecidedBy _ w (w.scheduleInterval c interval) :=
        World.decidedBy_editClock hclock _ rfl
      exact h.single
  | animate target duration requests easing onComplete =>
      rw [fault?, checks, ← World.fault?_newTween]
      exact (World.decidedBy_animate ..).unanswered
  | switchImage p name =>
      exact World.decidedBy_changePuppet w p Puppet.actor? .actor (w.galleryOrNew.rename · name)
        fun a => (fault?_map _ _).trans findSome?_single.symm
  | anchor p name =>
      exact World.decidedBy_changePuppet w p Puppet.actor? .actor (·.setAnchorName name)
        fun a => (fault?_map _ _).trans findSome?_single.symm
  | anchorAxes p x y =>
      exact World.decidedBy_changePuppet w p Puppet.actor? .actor (·.setAnchorNames x y)
        fun a => a.fault?_setAnchorNames x y
  | changeVec2 p change =>
      exact World.decidedBy_changePuppet w p Puppet.vec2? .vec2 change.inPlane
        fun v => (change.fault?_inPlane v).trans findSome?_single.symm
  | changeVec3 p change =>
      exact World.decidedBy_changePuppet w p Puppet.vec3? .vec3 change.inSpace
        fun v => (change.fault?_inSpace v).trans findSome?_single.symm
  | rotate p radians axis =>
      exact World.decidedBy_changePuppet w p Puppet.vec3? .vec3 (·.rotateRadians radians axis)
        fun v => (fault?_rotateRadians v radians axis).trans findSome?_single.symm
  | resize name size => exact (World.decidedBy_resizeImage (hgallery rfl) name size).single
  | loadManifest text =>
      exact (World.decidedBy_loadManifestText (hgallery rfl) text).unanswered.single

-- ======================================================= refused requests

/-- What a request that may be refused does to a world. -/
structure CarriedOutOrRefused (w : World κ σ Float) (r : Request κ) : Prop where
  /-- Step by step it comes to the same as at once. -/
  steps : r.steps.run w = (answering (perform · r)).run w
  /-- It is refused where one of its checks finds a fault, with the first fault found, and
  the world is then as it was. -/
  refused : ∀ f w', r.steps.run w = .error f w' ↔ r.fault? w = some f ∧ w' = w

/-- **A refused request changes nothing**: neither the queues nor the number of the next
tween, no puppet, no image and no name. -/
theorem refused_requests_leave_no_trace {w : World κ σ Float} (hclock : w.clock.isSome)
    (r : Request κ) (hgallery : r.onGallery → w.gallery.isSome) : CarriedOutOrRefused w r where
  steps := congrArg (EStateM.run · w) r.steps_eq
  refused f w' := by
    rw [steps_eq, run_answering_eq_error_iff]
    exact (decidedBy_perform hclock hgallery).error_iff f w'

/-- A world with something of everything: a waiting call, a next tween, an image and an actor
that holds it. -/
def rehearsal : World String (List (Notice String Float)) Float :=
  { time := .start 1.0
    config := none
    clock := some ⟨[⟨"tick", 1.0, 1.0⟩]⟩
    tweens := some ⟨[], 7⟩
    gallery := some ⟨[("bee", ⟨0⟩)]⟩
    stage :=
      { images := #[⟨"bee", ⟨10.0, 20.0⟩⟩]
        puppets := #[.actor ⟨⟨0⟩, .center, .center, 5.0, 10.0, 0.0, 1.0⟩] }
    host := [] }

/-- An anchor whose second name is the bad one, and a new size for a name without image. -/
theorem refused_in_rehearsal :
    rehearsal.clock.isSome ∧ rehearsal.gallery.isSome
      ∧ (anchorAxes ⟨0⟩ " Left" "left").steps.run rehearsal
          = .error (.unknownAnchor "left" AnchorY.expected) rehearsal
      ∧ (resize "wasp" ⟨3.0, 4.0⟩).steps.run rehearsal
          = .error (.unknownImage "wasp") rehearsal := by
  have hx : Text.key " Left" = "left" := by decide +kernel
  have hy : Text.key "left" = "left" := by decide +kernel
  refine ⟨rfl, rfl, ?_, ?_⟩
  · refine ((refused_requests_leave_no_trace rfl (anchorAxes ⟨0⟩ " Left" "left")
      fun _ => rfl).refused _ _).2 ⟨?_, rfl⟩
    show [Stagecraft.fault? (AnchorX.parse " Left" : Except (Fault Float) (AnchorX Float)),
      Stagecraft.fault? (AnchorY.parse "left" : Except (Fault Float) (AnchorY Float))].findSome? id
        = _
    unfold AnchorX.parse AnchorY.parse
    rw [hx, hy]
    rfl
  · exact ((refused_requests_leave_no_trace rfl (resize "wasp" ⟨3.0, 4.0⟩)
      fun _ => rfl).refused _ _).2 ⟨rfl, rfl⟩

end Request

end Stagecraft
