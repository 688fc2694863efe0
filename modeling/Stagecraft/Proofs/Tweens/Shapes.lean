/-
What a tween writes, and whom it writes to.

Who writes an attribute of a puppet is trusted to know that the puppet has
it, and in which shape. A tween asks once, when it is made, and then writes
for as long as it runs to a puppet that others have changed meanwhile. Two
things keep it right. Its tracks stay as they were made, and a value on the
way between two ends of one shape has that shape. And the puppet keeps the
shapes of its attributes, as long as it stays of its kind and, if it is a
record, its values have the shapes that they had (`Puppet.Alike`). Boxes,
actors and vectors have no choice in this, since there the shape of an
attribute is a matter of its name (`Alike.map_shape`).

# The writes

An update is told as the list of its writes, each with the stage that it
finds. The list is an account of the update and no more than that: its
writes lead from the stage before the update to the one after it
(`chained_update`), and what is shown of a write is shown along the chain.
-/
import Stagecraft.Proofs.Tweens.Writers

namespace Stagecraft

variable {κ α : Type}

-- ================================================================ shapes

namespace AttrValue

/-- A number, or a list of a length. -/
inductive Shape where
  | scalar
  | array (length : Nat)

def shape : AttrValue α → Shape
  | scalar _ => .scalar
  | array xs => .array xs.length

theorem sameShape_iff {v w : AttrValue α} : v.sameShape w = true ↔ v.shape = w.shape := by
  cases v with
  | scalar x =>
      cases w with
      | scalar y => exact ⟨fun _ => rfl, fun _ => rfl⟩
      | array ys => exact ⟨nofun, nofun⟩
  | array xs =>
      cases w with
      | scalar y => exact ⟨nofun, nofun⟩
      | array ys => simp [sameShape, shape]

/-- The share `n` of the way between two numbers, or between two lists of one length. -/
def interpolate? [Scalar α] (start stop : AttrValue α) (n : α) : Option (AttrValue α) :=
  match start, stop with
  | scalar s, scalar e => some (scalar (s + (e - s) * n))
  | array s, array e =>
    if s.length = e.length then some (array (List.zipWith (fun s e => s + (e - s) * n) s e))
    else none
  | _, _ => none

/-- Between values of one shape there is a way. -/
theorem interpolate?_eq [Scalar α] {start stop : AttrValue α}
    (h : start.sameShape stop = true) (n : α) :
    start.interpolate? stop n = some (start.interpolate stop n) := by
  cases start with
  | scalar x =>
      cases stop with
      | scalar y => rfl
      | array ys => cases h
  | array xs =>
      cases stop with
      | scalar y => cases h
      | array ys => exact if_pos (beq_iff_eq.1 h)

end AttrValue

/-- What suits is of the shape of what is read. -/
theorem Tween.suits_iff_shape {read : String → Option (AttrValue α)} {name : String}
    {v : AttrValue α} :
    suits read (name, v) = true ↔ (read name).map AttrValue.shape = some v.shape := by
  simp only [suits_iff, Option.map_eq_some_iff, AttrValue.sameShape_iff]

-- =============================================================== puppets

namespace Puppet

/-- Puppets of one kind, and if they are records, with values of the same shapes under the
same names. -/
inductive Alike : Puppet α → Puppet α → Prop where
  | record {m m' : AttributeMap α}
      (h : ∀ name, (m'.attr? name).map AttrValue.shape = (m.attr? name).map AttrValue.shape) :
      Alike (.record m) (.record m')
  | vec2 (v v' : Vec2 α) : Alike (.vec2 v) (.vec2 v')
  | vec3 (v v' : Vec3 α) : Alike (.vec3 v) (.vec3 v')
  | rect (r r' : Rect α) : Alike (.rect r) (.rect r')
  | actor (a a' : Actor α) : Alike (.actor a) (.actor a')

variable {p q r : Puppet α}

theorem Alike.refl (p : Puppet α) : p.Alike p := by
  cases p with
  | record m => exact .record fun _ => rfl
  | vec2 v => exact .vec2 v v
  | vec3 v => exact .vec3 v v
  | rect r => exact .rect r r
  | actor a => exact .actor a a

theorem Alike.trans (h : p.Alike q) (h' : q.Alike r) : p.Alike r := by
  cases h with
  | record hm =>
      cases h' with
      | record hm' => exact .record fun name => (hm' name).trans (hm name)
  | vec2 v v' => cases h'; exact .vec2 ..
  | vec3 v v' => cases h'; exact .vec3 ..
  | rect r r' => cases h'; exact .rect ..
  | actor a a' => cases h'; exact .actor ..

variable [Scalar α]

/-- Puppets that are alike have the same attributes in the same shapes, whatever sizes
their images have. -/
theorem Alike.map_shape (h : p.Alike q) (sizeOf sizeOf' : ImageId → Size α) (name : String) :
    (q.attr? sizeOf' name).map AttrValue.shape = (p.attr? sizeOf name).map AttrValue.shape := by
  cases h with
  | record hm => exact hm name
  | vec2 v v' =>
      show (v'.attr? name).map _ = (v.attr? name).map _
      unfold Vec2.attr?
      split <;> rfl
  | vec3 v v' =>
      show (v'.attr? name).map _ = (v.attr? name).map _
      unfold Vec3.attr?
      split <;> rfl
  | rect r r' =>
      show (r'.attr? name).map _ = (r.attr? name).map _
      unfold Rect.attr?
      split
      case h_12 => cases AnchorPoint.find? name <;> rfl
      all_goals rfl
  | actor a a' =>
      show (a'.attr? _ name).map _ = (a.attr? _ name).map _
      unfold Actor.attr?
      split
      case h_14 => cases AnchorPoint.find? name <;> rfl
      all_goals rfl

/-- A write of the right shape leaves a puppet alike. -/
theorem alike_setAttr {sizeOf : ImageId → Size α} {name : String} {v : AttrValue α}
    (h : Tween.suits (p.attr? sizeOf) (name, v) = true) : p.Alike (p.setAttr sizeOf name v) := by
  cases p with
  | record m =>
      have hnow : (m.attr? name).map AttrValue.shape = some v.shape := Tween.suits_iff_shape.1 h
      refine .record fun other => ?_
      by_cases hother : name = other
      · have hknown : (m.attr? name).isSome := by
          rw [← Option.isSome_map, hnow]
          rfl
        rw [← hother, AttributeMap.attr?_setAttr_self hknown, hnow]
        rfl
      · rw [AttributeMap.attr?_setAttr_of_ne hother]
  | vec2 v => exact .vec2 ..
  | vec3 v => exact .vec3 ..
  | rect r => exact .rect ..
  | actor a => exact .actor ..

end Puppet

/-- Whether the stage has a puppet like this one under the handle. -/
def Stage.HasLike (s : Stage α) (i : PuppetId) (p : Puppet α) : Prop :=
  ∃ q, s.puppet? i = some q ∧ p.Alike q

-- ============================================================ the writes

/-- A write to a puppet, and the stage that it finds. -/
structure Write (α : Type) where
  stage : Stage α
  name : String
  value : AttrValue α

section Writes

variable [Scalar α] {made s e : Stage α} {i : PuppetId} {p : Puppet α} {name : String}
  {v : AttrValue α} {ws : List (Write α)}

/-- A request suits a puppet if it suits one that is like it. -/
theorem Stage.HasLike.suits_eq (h : s.HasLike i p) (hmade : made.puppet? i = some p)
    (name : String) (v : AttrValue α) :
    Tween.suits (s.attr? i) (name, v) = Tween.suits (made.attr? i) (name, v) := by
  obtain ⟨q, hq, halike⟩ := h
  have hshape : (s.attr? i name).map AttrValue.shape = (made.attr? i name).map AttrValue.shape := by
    unfold Stage.attr?
    rw [hq, hmade]
    exact halike.map_shape made.sizeOf s.sizeOf name
  rw [Bool.eq_iff_iff, Tween.suits_iff_shape, Tween.suits_iff_shape, hshape]

theorem Stage.HasLike.setAttr (h : s.HasLike i p)
    (hsuits : Tween.suits (s.attr? i) (name, v) = true) : (s.setAttr i name v).HasLike i p := by
  obtain ⟨q, hq, halike⟩ := h
  have hown : Tween.suits (q.attr? s.sizeOf) (name, v) = true := by
    unfold Stage.attr? at hsuits
    rw [hq] at hsuits
    exact hsuits
  refine ⟨q.setAttr s.sizeOf name v, ?_, halike.trans (Puppet.alike_setAttr hown)⟩
  rw [puppet?_setAttr, if_pos rfl, hq]
  rfl

/-- The writes of a list of values, one after the other. -/
def writesFrom (i : PuppetId) (s : Stage α) : List (String × AttrValue α) → List (Write α)
  | [] => []
  | (name, value) :: rest => ⟨s, name, value⟩ :: writesFrom i (s.setAttr i name value) rest

theorem map_writesFrom (i : PuppetId) (s : Stage α) (l : List (String × AttrValue α)) :
    (writesFrom i s l).map (fun w => (w.name, w.value)) = l := by
  induction l generalizing s with
  | nil => rfl
  | cons request rest ih => exact congrArg (request :: ·) (ih _)

/-- Whether the writes lead from the first stage to the second, each finding what the ones
before it left. -/
def Chained (i : PuppetId) (s : Stage α) : List (Write α) → Stage α → Prop
  | [], e => e = s
  | w :: ws, e => w.stage = s ∧ Chained i (s.setAttr i w.name w.value) ws e

theorem chained_writesFrom (i : PuppetId) (s : Stage α) (l : List (String × AttrValue α)) :
    Chained i s (writesFrom i s l) (s.setAttrs i l) := by
  induction l generalizing s with
  | nil => rfl
  | cons request rest ih => exact ⟨rfl, ih (s.setAttr i request.1 request.2)⟩

/-- Writes that suited a puppet suit it along a chain, and leave it alike. -/
theorem Chained.suit (h : Chained i s ws e) (hmade : made.puppet? i = some p)
    (hlike : s.HasLike i p)
    (hws : ∀ w ∈ ws, Tween.suits (made.attr? i) (w.name, w.value) = true) :
    (∀ w ∈ ws, Tween.suits (w.stage.attr? i) (w.name, w.value) = true) ∧ e.HasLike i p := by
  induction ws generalizing s with
  | nil =>
      obtain rfl : e = s := h
      exact ⟨fun _ hw => absurd hw List.not_mem_nil, hlike⟩
  | cons w rest ih =>
      obtain ⟨rfl, hrest⟩ := h
      rw [List.forall_mem_cons] at hws
      have hfirst : Tween.suits (w.stage.attr? i) (w.name, w.value) = true :=
        (hlike.suits_eq hmade w.name w.value).trans hws.1
      obtain ⟨hsuit, hend⟩ := ih hrest (hlike.setAttr hfirst) hws.2
      exact ⟨List.forall_mem_cons.2 ⟨hfirst, hsuit⟩, hend⟩

end Writes

-- ============================================================== lifetimes

/-- What happens in the life of a tween: it is stepped, or others leave another stage. -/
inductive Moment (α : Type) where
  | update (dt : α)
  | meanwhile (s : Stage α)

namespace Tween

variable [Elementary α]

/-- A tween and the stage after a moment. -/
def live (st : Tween κ α × Stage α) : Moment α → Tween κ α × Stage α
  | .update dt => st.1.update dt st.2
  | .meanwhile s => (st.1, s)

/-- A tween and the stage after a list of moments. -/
def lives (st : Tween κ α × Stage α) (ms : List (Moment α)) : Tween κ α × Stage α :=
  ms.foldl live st

/-- What the tween writes at a moment. -/
def writesAt (st : Tween κ α × Stage α) : Moment α → List (Write α)
  | .update dt => writesFrom st.1.target st.2 (st.1.moved dt).values
  | .meanwhile _ => []

/-- What the tween writes in a list of moments. -/
def writes (st : Tween κ α × Stage α) : List (Moment α) → List (Write α)
  | [] => []
  | m :: ms => writesAt st m ++ writes (live st m) ms

/-- The writes of an update are all that it does to the stage. -/
theorem chained_update (t : Tween κ α) (s : Stage α) (dt : α) :
    Chained t.target s (writesAt (t, s) (.update dt)) (t.update dt s).2 :=
  chained_writesFrom t.target s (t.moved dt).values

variable {made : Stage α} {p : Puppet α} {t : Tween κ α} {st : Tween κ α × Stage α}

/-- No moment gives the tween another puppet. -/
theorem target_lives (st : Tween κ α × Stage α) (ms : List (Moment α)) :
    (lives st ms).1.target = st.1.target := by
  induction ms generalizing st with
  | nil => rfl
  | cons m ms ih =>
      refine (ih (live st m)).trans ?_
      cases m <;> rfl

theorem chained_lives (st : Tween κ α × Stage α) (past : List (Moment α)) (dt : α) :
    Chained st.1.target (lives st past).2 (writesAt (lives st past) (.update dt))
      (lives st (past ++ [.update dt])).2 := by
  have hlast : lives st (past ++ [.update dt]) = live (lives st past) (.update dt) :=
    List.foldl_concat ..
  have hchain := chained_update (lives st past).1 (lives st past).2 dt
  rw [target_lives] at hchain
  rw [hlast]
  exact hchain

/-- Where a tween has an attribute, it has it in the shape that was read. -/
theorem Sound.suits_valueAt (h : Sound (made.attr? t.target) t.tracks) {a : Track α}
    (ha : a ∈ t.tracks) (u : Tween κ α) (elapsed : α) :
    suits (made.attr? t.target) (a.name, u.valueAt elapsed a) = true := by
  refine suits_iff.2 ⟨a.start, h.read a ha, ?_⟩
  unfold valueAt
  split
  · exact h.shape a ha
  · exact AttrValue.sameShape_interpolate _ (h.shape a ha)

/-- The tween has the tracks and the puppet that it was made with, and the puppet on the
stage is like the one that it was made for. -/
structure Faithful (t : Tween κ α) (p : Puppet α) (st : Tween κ α × Stage α) : Prop where
  tracks : st.1.tracks = t.tracks
  target : st.1.target = t.target
  like : st.2.HasLike t.target p

/-- Whether a write suits the puppet as it was, and as the write finds it. -/
structure Suited (made : Stage α) (i : PuppetId) (w : Write α) : Prop where
  before : suits (made.attr? i) (w.name, w.value) = true
  now : suits (w.stage.attr? i) (w.name, w.value) = true

theorem Faithful.live (h : Faithful t p st) (hsound : Sound (made.attr? t.target) t.tracks)
    (hmade : made.puppet? t.target = some p) {m : Moment α}
    (hm : ∀ s, m = .meanwhile s → s.HasLike t.target p) :
    Faithful t p (live st m) ∧ ∀ w ∈ writesAt st m, Suited made t.target w := by
  cases m with
  | meanwhile s => exact ⟨⟨h.tracks, h.target, hm s rfl⟩, fun _ hw => absurd hw List.not_mem_nil⟩
  | update dt =>
      have hbefore : ∀ w ∈ writesAt st (.update dt),
          suits (made.attr? t.target) (w.name, w.value) = true := by
        intro w hw
        have hvalue : (w.name, w.value) ∈ (st.1.moved dt).values := by
          rw [← map_writesFrom st.1.target st.2 (st.1.moved dt).values]
          exact List.mem_map_of_mem (f := fun w => (w.name, w.value)) hw
        rw [values_moved, h.tracks] at hvalue
        obtain ⟨a, ha, heq⟩ := List.mem_map.1 hvalue
        rw [← heq]
        exact hsound.suits_valueAt ha st.1 _
      have hchain := chained_update st.1 st.2 dt
      rw [h.target] at hchain
      obtain ⟨hnow, hlike⟩ := hchain.suit hmade h.like hbefore
      exact ⟨⟨h.tracks, h.target, hlike⟩, fun w hw => ⟨hbefore w hw, hnow w hw⟩⟩

theorem Faithful.lives (h : Faithful t p st) (hsound : Sound (made.attr? t.target) t.tracks)
    (hmade : made.puppet? t.target = some p) {ms : List (Moment α)}
    (hms : ∀ s, .meanwhile s ∈ ms → s.HasLike t.target p) :
    Faithful t p (lives st ms) ∧ ∀ w ∈ writes st ms, Suited made t.target w := by
  induction ms generalizing st with
  | nil => exact ⟨h, fun _ hw => absurd hw List.not_mem_nil⟩
  | cons m ms ih =>
      obtain ⟨hstep, hfirst⟩ := h.live hsound hmade fun s hs => hms s (hs ▸ List.mem_cons_self)
      obtain ⟨hend, hrest⟩ := ih hstep fun s hs => hms s (List.mem_cons_of_mem m hs)
      exact ⟨hend, List.forall_mem_append.2 ⟨hfirst, hrest⟩⟩

-- ============================================================= the result

/-- What is promised of the writes of a tween, from when it is made on. -/
structure WritesSuit (made : Stage α) (t : Tween κ α) (ms : List (Moment α)) : Prop where
  /-- What is written has a name under which the puppet had a value of its shape when the
  tween was made, and has one when it is written. -/
  suited (w : Write α) (hw : w ∈ writes (t, made) ms) : Suited made t.target w
  /-- An attribute ends in the shape in which it starts, ... -/
  shape (a : Track α) (ha : a ∈ (lives (t, made) ms).1.tracks) : a.start.sameShape a.stop = true
  /-- ... so that there is a way between them, and no value on it is shorter. -/
  way (a : Track α) (ha : a ∈ (lives (t, made) ms).1.tracks) (n : α) :
    a.start.interpolate? a.stop n = some (a.start.interpolate a.stop n)
      ∧ a.start.sameShape (a.start.interpolate a.stop n) = true
  /-- The writes that are meant are all that an update does. -/
  told (past : List (Moment α)) (dt : α) :
    Chained t.target (lives (t, made) past).2 (writesAt (lives (t, made) past) (.update dt))
      (lives (t, made) (past ++ [.update dt])).2

/-- A tween that is made for a puppet, with any easing, and stepped while others change the
puppet and leave it alike. -/
theorem writes_what_suits {target : PuppetId} {duration : α}
    {requests : List (String × AttrValue α)}
    (hnew : Tween.new made target duration requests = .ok t) (easing : Easing)
    (onComplete : Option κ) (hmade : made.puppet? target = some p) {ms : List (Moment α)}
    (hms : ∀ s, .meanwhile s ∈ ms → s.HasLike target p) :
    WritesSuit made { t with easing, onComplete } ms := by
  obtain ⟨rfl, -, hsound⟩ := new_parts hnew
  have hstart : Faithful { t with easing, onComplete } p ({ t with easing, onComplete }, made) :=
    ⟨rfl, rfl, p, hmade, .refl p⟩
  obtain ⟨hend, hsuited⟩ := hstart.lives hsound hmade hms
  have hshape : ∀ a ∈ (lives ({ t with easing, onComplete }, made) ms).1.tracks,
      a.start.sameShape a.stop = true := by
    rw [hend.tracks]
    exact hsound.shape
  constructor
  case suited => exact hsuited
  case shape => exact hshape
  case way =>
      intro a ha n
      exact ⟨AttrValue.interpolate?_eq (hshape a ha) n,
        AttrValue.sameShape_interpolate n (hshape a ha)⟩
  case told => exact chained_lives ({ t with easing, onComplete }, made)

/-- A stage with a box at the origin. -/
private def boxAtOrigin : Stage Float := { puppets := #[.rect ⟨0.0, 0.0, 1.0, 1.0⟩] }

/-- The stage after someone has moved the box and made it wider. -/
private def boxElsewhere : Stage Float := { puppets := #[.rect ⟨9.0, 9.0, 5.0, 1.0⟩] }

/-- Stepped by half a second before and by a second after that, a tween writes what suits the
box: the number first and the pair behind it, as they were requested. -/
theorem a_moved_box_is_written_what_suits : ∃ t : Tween Nat Float,
    Tween.new boxAtOrigin ⟨0⟩ 1.0 [("x", .scalar 4.0), ("y", .array []),
        ("size", .array [2.0, 3.0])] = .ok t
      ∧ WritesSuit boxAtOrigin { t with easing := .bounceEnd, onComplete := some 7 }
          [.update 0.5, .meanwhile boxElsewhere, .update 1.0]
      ∧ (writes (t, boxAtOrigin) [.update 0.5, .meanwhile boxElsewhere, .update 1.0]).map
          Write.name = ["x", "size", "x", "size"] := by
  have hduration : isDelay (1.0 : Float) = true := by decide +kernel
  have hnew := Tween.new_of_isDelay (κ := Nat) hduration boxAtOrigin ⟨0⟩
    [("x", .scalar 4.0), ("y", .array []), ("size", .array [2.0, 3.0])]
  refine ⟨_, hnew, writes_what_suits hnew .bounceEnd (some 7) rfl ?_, ?_⟩
  · intro s hs
    obtain rfl : s = boxElsewhere := by simpa using hs
    exact ⟨_, rfl, .rect ..⟩
  · decide +kernel

end Tween

end Stagecraft
