/-
Writing to records, and what a tween writes.

A record of attributes is the puppet whose attributes are independent of
each other: what is written under a name is read back under it, and no
other name changes. So the attributes of a record after any number of
steps are read off the writers one by one. A name keeps its value as long
as no task writes it (`attr?_played_of_quiet`), and a name that one task
alone writes has the value that this task gave it
(`attr?_played_of_writer`), wherever in the queue the task stands.

A tween writes each of its names once in a step: the requests that it was
made from may repeat a name, but its tracks do not, and each has an end of
the shape of its start (`trackAll_sound`).
-/
import Stagecraft.Proofs.Tweens.Numbering

namespace Stagecraft

variable {κ α : Type}

-- ======================================================= attribute maps

namespace AttributeMap

variable {m : AttributeMap α} {name other : String} {v : AttrValue α}

private theorem find?_setAttr (m : AttributeMap α) (name other : String) (v : AttrValue α) :
    (m.setAttr name v).find? (fun p => p.1 == other)
      = (m.find? fun p => p.1 == other).map fun p => if p.1 == name then (p.1, v) else p := by
  unfold setAttr
  rw [List.find?_map]
  congr 2
  funext p
  dsimp only [Function.comp]
  split <;> rfl

/-- What is written under a name that the map has is read back under it. -/
theorem attr?_setAttr_self (h : (m.attr? name).isSome) : (m.setAttr name v).attr? name = some v := by
  unfold attr? at h ⊢
  rw [find?_setAttr]
  rw [Option.isSome_map] at h
  obtain ⟨p, hp⟩ := Option.isSome_iff_exists.1 h
  have hname : p.1 = name := by simpa using List.find?_some hp
  rw [hp, Option.map_some, if_pos (beq_iff_eq.2 hname), Option.map_some]

/-- Under another name there is what there was. -/
theorem attr?_setAttr_of_ne (h : name ≠ other) : (m.setAttr name v).attr? other = m.attr? other := by
  unfold attr?
  rw [find?_setAttr]
  cases hp : m.find? (fun p => p.1 == other) with
  | none => rfl
  | some p =>
      have hother : p.1 = other := by simpa using List.find?_some hp
      have hne : ¬(p.1 == name) = true := by
        rw [hother, beq_iff_eq]
        exact Ne.symm h
      rw [Option.map_some, if_neg hne]

/-- A write gives a record no name that it does not have. -/
theorem isSome_attr?_setAttr (m : AttributeMap α) (name other : String) (v : AttrValue α) :
    ((m.setAttr name v).attr? other).isSome = (m.attr? other).isSome := by
  unfold attr?
  rw [find?_setAttr, Option.isSome_map, Option.isSome_map, Option.isSome_map]

/-- Writes under different names change places. -/
theorem setAttr_comm (h : name ≠ other) (v w : AttrValue α) :
    (m.setAttr name v).setAttr other w = (m.setAttr other w).setAttr name v := by
  unfold setAttr
  rw [List.map_map, List.map_map]
  refine List.map_congr_left fun p _ => ?_
  dsimp only [Function.comp]
  by_cases hname : p.1 = name
  · simp [hname, h]
  · by_cases hother : p.1 = other
    · simp [hother, Ne.symm h]
    · simp [hname, hother]

end AttributeMap

-- ========================================================= the stage

namespace Stage

/-- Whether the puppet of a handle is a record. -/
def HasRecord (s : Stage α) (i : PuppetId) : Prop := ∃ m, s.puppet? i = some (.record m)

variable [Scalar α] {s : Stage α} {i j : PuppetId} {name other : String} {v : AttrValue α}

/-- A write changes the puppet that it is for. -/
theorem puppet?_setAttr (s : Stage α) (i j : PuppetId) (name : String) (v : AttrValue α) :
    (s.setAttr j name v).puppet? i
      = if j = i then (s.puppet? i).map (fun p => p.setAttr s.sizeOf name v) else s.puppet? i := by
  unfold setAttr
  cases hp : s.puppet? j with
  | none =>
      dsimp only
      by_cases heq : j = i
      · rw [if_pos heq, ← heq, hp]
        rfl
      · rw [if_neg heq]
  | some p =>
      dsimp only
      unfold setPuppet puppet? at *
      dsimp only
      rw [Array.getElem?_setIfInBounds]
      obtain ⟨hlt, -⟩ := Array.getElem?_eq_some_iff.1 hp
      by_cases heq : j = i
      · subst heq
        rw [if_pos rfl, if_pos rfl, if_pos hlt, hp]
        rfl
      · have hindex : ¬j.index = i.index := fun h => heq (by cases i; cases j; exact congrArg _ h)
        rw [if_neg heq, if_neg hindex]

theorem HasRecord.setAttr (h : s.HasRecord i) (j : PuppetId) (name : String) (v : AttrValue α) :
    (s.setAttr j name v).HasRecord i := by
  obtain ⟨m, hm⟩ := h
  unfold HasRecord
  rw [puppet?_setAttr, hm]
  split
  · exact ⟨m.setAttr name v, rfl⟩
  · exact ⟨m, rfl⟩

/-- What is written under a name that a record has is read back under it. -/
theorem attr?_setAttr_self (h : s.HasRecord i) (hname : (s.attr? i name).isSome) :
    (s.setAttr i name v).attr? i name = some v := by
  obtain ⟨m, hm⟩ := h
  unfold attr? at hname ⊢
  rw [puppet?_setAttr, if_pos rfl, hm]
  rw [hm] at hname
  exact AttributeMap.attr?_setAttr_self hname

/-- A write to another puppet or under another name leaves an attribute of a
record. -/
theorem attr?_setAttr_of_ne (h : s.HasRecord i) (hne : j ≠ i ∨ name ≠ other) :
    (s.setAttr j name v).attr? i other = s.attr? i other := by
  obtain ⟨m, hm⟩ := h
  unfold attr?
  rw [puppet?_setAttr, hm]
  by_cases heq : j = i
  · rw [if_pos heq]
    exact AttributeMap.attr?_setAttr_of_ne (hne.resolve_left (absurd heq))
  · rw [if_neg heq]
    rfl

/-- Writes attributes of a puppet, one after the other. -/
def setAttrs (s : Stage α) (i : PuppetId) (l : List (String × AttrValue α)) : Stage α :=
  l.foldl (fun s (name, value) => s.setAttr i name value) s

theorem HasRecord.setAttrs (h : s.HasRecord i) (j : PuppetId)
    (l : List (String × AttrValue α)) : (s.setAttrs j l).HasRecord i := by
  induction l generalizing s with
  | nil => exact h
  | cons p rest ih => exact ih (h.setAttr j p.1 p.2)

/-- Names that are not written keep their values. -/
theorem attr?_setAttrs_of_not_mem (h : s.HasRecord i) {l : List (String × AttrValue α)}
    (hne : j ≠ i ∨ name ∉ l.map Prod.fst) : (s.setAttrs j l).attr? i name = s.attr? i name := by
  induction l generalizing s with
  | nil => rfl
  | cons p rest ih =>
      rw [List.map_cons, List.mem_cons, not_or] at hne
      have hrest := ih (h.setAttr j p.1 p.2) (hne.imp_right And.right)
      refine hrest.trans (attr?_setAttr_of_ne h ?_)
      exact hne.imp_right fun hboth heq => hboth.1 heq.symm

/-- A name that is written once has the value that is written. -/
theorem attr?_setAttrs_of_mem (h : s.HasRecord i) (hname : (s.attr? i name).isSome)
    {l : List (String × AttrValue α)} (hnodup : (l.map Prod.fst).Nodup)
    (hmem : (name, v) ∈ l) : (s.setAttrs i l).attr? i name = some v := by
  induction l generalizing s with
  | nil => cases hmem
  | cons p rest ih =>
      rw [List.map_cons, List.nodup_cons] at hnodup
      rcases List.mem_cons.1 hmem with rfl | hrest
      · -- written now, and not again
        refine (attr?_setAttrs_of_not_mem (h.setAttr i name v) (.inr hnodup.1)).trans ?_
        exact attr?_setAttr_self h hname
      · have hne : p.1 ≠ name := by
          rintro rfl
          exact hnodup.1 (List.mem_map.2 ⟨_, hrest, rfl⟩)
        refine ih (h.setAttr i p.1 p.2) ?_ hnodup.2 hrest
        rw [attr?_setAttr_of_ne h (.inr hne)]
        exact hname

end Stage

-- ================================================= what a tween captures

namespace Tween

/-- The names that a tween writes. -/
def names (t : Tween κ α) : List String := t.tracks.map Track.name

/-- Tracks for distinct names, each from the value that was read to an end of the
same shape. -/
structure Sound (read : String → Option (AttrValue α)) (tracks : List (Track α)) : Prop where
  nodup : (tracks.map Track.name).Nodup
  shape : ∀ a ∈ tracks, a.start.sameShape a.stop = true
  read : ∀ a ∈ tracks, read a.name = some a.start

section Track

variable {read : String → Option (AttrValue α)} {tracks : List (Track α)} {name : String}
  {start stop : AttrValue α}

/-- Whether there is an attribute of the name and the shape of a request. -/
def suits (read : String → Option (AttrValue α)) (request : String × AttrValue α) : Bool :=
  (read request.1).any fun start => start.sameShape request.2

theorem suits_iff {request : String × AttrValue α} :
    suits read request = true
      ↔ ∃ start, read request.1 = some start ∧ start.sameShape request.2 = true := by
  unfold suits
  rw [Option.any_eq_true]

/-- What a request does: one that does not suit leaves no trace, and one that suits gives
another end to a name that is on its way, or puts a new name behind the others. -/
theorem track_cases (read : String → Option (AttrValue α)) (tracks : List (Track α))
    (name : String) (stop : AttrValue α) :
    (suits read (name, stop) = false ∧ track read tracks (name, stop) = tracks)
      ∨ ∃ start, read name = some start ∧ start.sameShape stop = true
        ∧ (name ∈ tracks.map Track.name ∧ track read tracks (name, stop)
            = tracks.map (fun a => if a.name == name then { a with stop } else a)
          ∨ name ∉ tracks.map Track.name
            ∧ track read tracks (name, stop) = tracks ++ [⟨name, start, stop⟩]) := by
  unfold suits track
  dsimp only
  cases read name with
  | none => exact .inl ⟨rfl, rfl⟩
  | some start =>
      dsimp only [Option.any_some]
      by_cases hshape : start.sameShape stop = true
      · refine .inr ⟨start, rfl, hshape, ?_⟩
        rw [if_pos hshape]
        by_cases hname : (tracks.any fun a => a.name == name) = true
        · exact .inl ⟨by simpa [List.any_eq_true] using hname, if_pos hname⟩
        · exact .inr ⟨by simpa [List.any_eq_true] using hname, if_neg hname⟩
      · exact .inl ⟨Bool.eq_false_iff.2 hshape, if_neg hshape⟩

/-- A name that is on its way may get another end of its shape. -/
theorem Sound.redirect (h : Sound read tracks) (hstart : read name = some start)
    (hshape : start.sameShape stop = true) :
    Sound read (tracks.map fun t => if t.name == name then { t with stop } else t) := by
  have hname : ∀ a : Track α, (if a.name == name then { a with stop } else a).name = a.name := by
    intro a
    split <;> rfl
  constructor
  case nodup =>
    rw [List.map_map, show Track.name ∘ (fun a => if a.name == name then { a with stop } else a)
      = Track.name from funext hname]
    exact h.nodup
  case shape =>
    rw [List.forall_mem_map]
    intro a ha
    split
    next heq =>
      -- the value that was read is the start of the track
      have hread := h.read a ha
      rw [beq_iff_eq.1 heq, hstart, Option.some.injEq] at hread
      rw [← hread]
      exact hshape
    next => exact h.shape a ha
  case read =>
    rw [List.forall_mem_map]
    intro a ha
    rw [hname]
    split <;> exact h.read a ha

/-- A name that is not on its way may start. -/
theorem Sound.concat (h : Sound read tracks) (hnew : name ∉ tracks.map Track.name)
    (hstart : read name = some start) (hshape : start.sameShape stop = true) :
    Sound read (tracks ++ [⟨name, start, stop⟩]) := by
  constructor
  case nodup =>
    rw [List.map_append, List.map_singleton]
    exact h.nodup.append (List.nodup_singleton _) (List.disjoint_singleton.2 hnew)
  case shape =>
    rw [List.forall_mem_append, List.forall_mem_singleton]
    exact ⟨h.shape, hshape⟩
  case read =>
    rw [List.forall_mem_append, List.forall_mem_singleton]
    exact ⟨h.read, hstart⟩

theorem Sound.track (h : Sound read tracks) (request : String × AttrValue α) :
    Sound read (track read tracks request) := by
  obtain ⟨name, stop⟩ := request
  rcases track_cases read tracks name stop with
    ⟨-, heq⟩ | ⟨start, hstart, hshape, ⟨-, heq⟩ | ⟨hnew, heq⟩⟩
  · rw [heq]
    exact h
  · rw [heq]
    exact h.redirect hstart hshape
  · rw [heq]
    exact h.concat hnew hstart hshape

end Track

/-- The tracks of a list of requests are sound. -/
theorem trackAll_sound (read : String → Option (AttrValue α))
    (requests : List (String × AttrValue α)) : Sound read (trackAll read requests) := by
  have hnil : Sound read ([] : List (Track α)) :=
    ⟨List.nodup_nil, fun _ h => absurd h List.not_mem_nil, fun _ h => absurd h List.not_mem_nil⟩
  exact List.foldlRecOn requests _ hnil fun _ h request _ => h.track request

/-- Another easing changes nothing about the time. -/
theorem elapsed_of_withEasing {t t' : Tween κ α} {easing : Option String}
    (h : t.withEasing easing = .ok t') : t'.elapsed = t.elapsed := by
  cases easing with
  | none =>
      cases h
      rfl
  | some name =>
      dsimp only [withEasing] at h
      cases hcurve : (Easing.parse name : Except (Fault α) Easing) with
      | error f =>
          rw [hcurve] at h
          cases h
      | ok curve =>
          rw [hcurve] at h
          cases h
          rfl

/-- A tween that is made tracks what suits of the requests, and has not run yet. -/
theorem new_eq [Elementary α] {s : Stage α} {target : PuppetId} {duration : α}
    {requests : List (String × AttrValue α)} {t : Tween κ α}
    (h : Tween.new s target duration requests = .ok t) :
    t = ⟨target, trackAll (s.attr? target) requests, 0.0, t.duration, .linear, none⟩ := by
  unfold Tween.new at h
  cases hduration : ensurePositive "duration" duration with
  | error f =>
      rw [hduration] at h
      cases h
  | ok d =>
      rw [hduration] at h
      cases h
      rfl

/-- A tween that is made for a puppet has not run yet, and its tracks are sound. -/
theorem new_parts [Elementary α] {s : Stage α} {target : PuppetId} {duration : α}
    {requests : List (String × AttrValue α)} {t : Tween κ α}
    (h : Tween.new s target duration requests = .ok t) :
    t.target = target ∧ t.elapsed = 0.0 ∧ Sound (s.attr? target) t.tracks := by
  rw [new_eq h]
  exact ⟨rfl, rfl, trackAll_sound _ requests⟩

end Tween

-- ========================================================= what a task writes

/-- Whether the steps of a task write an attribute of a puppet. -/
def Task.Writes (p : Task κ α) (i : PuppetId) (name : String) : Prop :=
  p.2.target = i ∧ name ∈ p.2.names

section Steps

variable [Elementary α]

theorem Tween.map_fst_values (t : Tween κ α) : t.values.map Prod.fst = t.names := by
  unfold Tween.values Tween.names
  split
  · rw [List.map_map]
    rfl
  · rw [List.map_map]
    rfl

variable {s : Stage α} {i : PuppetId} {name : String} {p : Task κ α} {dt : α}

/-- A step writes the values that the tween has after it. -/
theorem Task.play_eq (dt : α) (s : Stage α) (p : Task κ α) :
    p.play dt s = s.setAttrs p.2.target (p.2.moved dt).values := rfl

theorem Task.hasRecord_play (h : s.HasRecord i) (dt : α) (p : Task κ α) :
    (p.play dt s).HasRecord i := h.setAttrs _ _

/-- A task that does not write an attribute leaves it. -/
theorem Task.attr?_play_of_not_writes (h : s.HasRecord i) (hp : ¬p.Writes i name) (dt : α) :
    (p.play dt s).attr? i name = s.attr? i name := by
  rw [play_eq]
  refine Stage.attr?_setAttrs_of_not_mem h ?_
  rw [Tween.map_fst_values]
  exact not_and_or.1 hp

/-- A task that writes an attribute gives it the value that its tween has then. -/
theorem Task.attr?_play_of_writes {v : AttrValue α} (h : s.HasRecord p.2.target)
    (hname : (s.attr? p.2.target name).isSome) (hnodup : p.2.names.Nodup)
    (hv : (name, v) ∈ (p.2.moved dt).values) :
    (p.play dt s).attr? p.2.target name = some v := by
  rw [play_eq]
  refine Stage.attr?_setAttrs_of_mem h hname ?_ hv
  rw [Tween.map_fst_values]
  exact hnodup

/-- What every write keeps is kept by a pass over the queue. -/
theorem TweenQueue.played_induct {P : Stage α → Prop}
    (hwrite : ∀ (s : Stage α) (i : PuppetId) (name : String) (v : AttrValue α),
      P s → P (s.setAttr i name v))
    (h : P s) (q : TweenQueue κ α) (dt : α) : P (q.played dt s) := by
  have hplay : ∀ s : Stage α, P s → ∀ p : Task κ α, P (p.play dt s) := by
    intro s hs p
    rw [Task.play_eq]
    exact List.foldlRecOn (p.2.moved dt).values _ hs fun s hs v _ => hwrite s p.2.target v.1 v.2 hs
  exact List.foldlRecOn q.live _ h fun s hs p _ => hplay s hs p

end Steps

end Stagecraft
