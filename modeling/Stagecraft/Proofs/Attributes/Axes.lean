/-
Attributes along the axes of a puppet, in exact arithmetic.

Along an axis a puppet is a segment: it starts somewhere and has a length. As
far as one axis goes, an attribute is the length, or a mark at a distance
from the start that may depend on the length, or nothing (`Hold`). Attributes
share these few numbers, so one that is written can move another that was
written before.

# Ends that are had at once

Say that some segment, the goal, has all the values that are to be written.
Writing the length then gives the goal's length, whatever was written before.
Writing a mark puts it where the goal has it, and this is the goal's start
only if the mark is as far from the start then as it is in the goal. A later
mark makes up for an earlier one, for better or for worse. So in the end all
values are read exactly if the segment gets the length of the goal, from
before or from a value that is written, and the last mark is as far from the
start as in the goal when it is written (`Settles`, `forall_meets_iff`). This
is a condition on the order in which values are written.

What a puppet has along its axes is read off its parts (`Part.Takes`), and
that is what remains to be said of each kind of puppet.
-/
import Stagecraft.Proofs.Attributes.Tables

namespace Stagecraft

variable {K : Type}

-- ============================================================== one axis

/-- A puppet along one axis. -/
structure Segment (K : Type) where
  start : K
  length : K
  deriving DecidableEq

/-- What an attribute is along one axis. -/
inductive Hold (K : Type) where
  | nothing
  | length
  /-- A mark, at a distance from the start that the length decides. -/
  | mark (distance : K → K)

section OneAxis

variable [AddCommGroup K]

namespace Hold

variable {goal seg : Segment K} {hs : List (Hold K)}

def isMark : Hold K → Bool
  | mark _ => true
  | _ => false

/-- The segment once the value that the goal has is written. -/
def put (goal seg : Segment K) : Hold K → Segment K
  | nothing => seg
  | length => { seg with length := goal.length }
  | mark distance =>
    { seg with start := goal.start + distance goal.length - distance seg.length }

/-- Whether the value is the one that the goal has. -/
def Meets (goal seg : Segment K) : Hold K → Prop
  | nothing => True
  | length => seg.length = goal.length
  | mark distance => seg.start + distance seg.length = goal.start + distance goal.length

/-- The segment once all values are written, one after the other. -/
def putAll (goal seg : Segment K) (hs : List (Hold K)) : Segment K :=
  hs.foldl (fun seg h => h.put goal seg) seg

theorem putAll_append (goal seg : Segment K) (hs more : List (Hold K)) :
    putAll goal seg (hs ++ more) = putAll goal (putAll goal seg hs) more := List.foldl_append

theorem length_putAll_or_mem (goal seg : Segment K) (hs : List (Hold K)) :
    (putAll goal seg hs).length = seg.length ∨ .length ∈ hs := by
  induction hs generalizing seg with
  | nil => exact .inl rfl
  | cons h rest ih =>
      cases h with
      | length => exact .inr List.mem_cons_self
      | nothing | mark _ => exact (ih _).imp id (List.mem_cons_of_mem _)

/-- A length that is written is the goal's from then on. -/
theorem length_putAll (h : goal.length = seg.length ∨ .length ∈ hs) :
    (putAll goal seg hs).length = goal.length := by
  induction hs generalizing seg with
  | nil => exact (h.resolve_right List.not_mem_nil).symm
  | cons first rest ih =>
      cases first with
      | length => exact ih (.inl rfl)
      | nothing | mark _ => exact ih (h.imp id fun hmem => by simpa using hmem)

/-- Without marks the start stays where it is. -/
theorem start_putAll_of_no_mark (h : ∀ h ∈ hs, h.isMark = false) :
    (putAll goal seg hs).start = seg.start := by
  induction hs generalizing seg with
  | nil => rfl
  | cons first rest ih =>
      obtain ⟨hfirst, hrest⟩ := List.forall_mem_cons.1 h
      cases first with
      | mark _ => cases hfirst
      | nothing | length => exact (ih hrest).trans rfl

omit [AddCommGroup K] in
/-- Where there are marks one of them is the last. -/
theorem exists_last_mark {h : Hold K} (hmem : h ∈ hs) (hmark : h.isMark = true) :
    ∃ before distance behind, hs = before ++ .mark distance :: behind
      ∧ ∀ h ∈ behind, h.isMark = false := by
  induction hs using List.reverseRecOn with
  | nil => cases hmem
  | append_singleton hs last ih =>
      cases last with
      | mark distance => exact ⟨hs, distance, [], rfl, fun _ h => absurd h List.not_mem_nil⟩
      | nothing | length =>
          have hbefore : h ∈ hs := by
            refine (List.mem_append.1 hmem).resolve_right fun hlast => ?_
            rw [List.mem_singleton.1 hlast] at hmark
            cases hmark
          obtain ⟨before, distance, behind, rfl, hbehind⟩ := ih hbefore
          refine ⟨before, distance, behind ++ [_], List.append_assoc _ _ _, ?_⟩
          rw [List.forall_mem_append, List.forall_mem_singleton]
          exact ⟨hbehind, rfl⟩

/-- Whether a segment of a length settles at a goal of another length when it takes the
goal's values in this order: it gets the goal's length, and its last mark is written
after the length, unless the mark is as far from the start in both lengths. -/
structure Settles (hs : List (Hold K)) (now goal : K) : Prop where
  length : goal = now ∨ .length ∈ hs
  mark : ∀ before distance behind, hs = before ++ .mark distance :: behind →
    (∀ h ∈ behind, h.isMark = false) → .length ∈ before ∨ distance now = distance goal

omit [AddCommGroup K] in
/-- Where the length is right already, the order does not matter. -/
theorem Settles.of_same {now : K} (hs : List (Hold K)) : Settles hs now now :=
  ⟨.inl rfl, fun _ _ _ _ _ => .inr rfl⟩

omit [AddCommGroup K] in
/-- A length that is written before all marks settles everything. -/
theorem Settles.of_length_first {first rest : List (Hold K)} {now goal : K}
    (hlength : .length ∈ first) (hmark : ∀ h ∈ first, h.isMark = false) :
    Settles (first ++ rest) now goal := by
  refine ⟨.inr (List.mem_append_left _ hlength), fun before distance behind hsplit _ => .inl ?_⟩
  rcases List.append_eq_append_iff.1 hsplit with ⟨more, hbefore, -⟩ | ⟨more, hfirst, hrest⟩
  · rw [hbefore]
    exact List.mem_append_left _ hlength
  · -- what is left of the first ones behind `before` begins with a mark, so nothing is left
    cases more with
    | nil =>
        rw [List.append_nil] at hfirst
        rwa [← hfirst]
    | cons h more =>
        obtain ⟨rfl, -⟩ := List.cons.inj hrest
        have hin : .mark distance ∈ first :=
          hfirst ▸ List.mem_append_right _ List.mem_cons_self
        cases hmark _ hin

/-- All values are the goal's in the end exactly if the last mark is as far from the start
as in the goal when it is written. -/
theorem forall_meets_iff (hlength : goal.length = seg.length ∨ .length ∈ hs) :
    (∀ h ∈ hs, h.Meets goal (putAll goal seg hs))
      ↔ ∀ before distance behind, hs = before ++ .mark distance :: behind →
        (∀ h ∈ behind, h.isMark = false) →
          .length ∈ before ∨ distance seg.length = distance goal.length := by
  have hend : (putAll goal seg hs).length = goal.length := length_putAll hlength
  -- the start is where the last mark has put it
  have hstart {before behind : List (Hold K)} {distance : K → K}
      (hsplit : hs = before ++ .mark distance :: behind)
      (hbehind : ∀ h ∈ behind, h.isMark = false) : (putAll goal seg hs).start
        = goal.start + distance goal.length - distance (putAll goal seg before).length := by
    rw [hsplit, putAll_append]
    exact start_putAll_of_no_mark hbehind
  constructor
  · intro hmeets before distance behind hsplit hbehind
    have hmem : .mark distance ∈ hs := hsplit ▸ List.mem_append_right _ List.mem_cons_self
    have hmark : (putAll goal seg hs).start + distance (putAll goal seg hs).length
        = goal.start + distance goal.length := hmeets _ hmem
    rw [hend, add_left_inj, hstart hsplit hbehind, add_sub_assoc, add_eq_left, sub_eq_zero] at hmark
    rcases length_putAll_or_mem goal seg before with hbefore | hmem
    · rw [hbefore] at hmark
      exact .inr hmark.symm
    · exact .inl hmem
  · intro hlast h hmem
    cases h with
    | nothing => trivial
    | length => exact hend
    | mark distance' =>
        obtain ⟨before, distance, behind, hsplit, hbehind⟩ := exists_last_mark hmem rfl
        have hfar : distance (putAll goal seg before).length = distance goal.length := by
          rcases length_putAll_or_mem goal seg before with hbefore | hin
          · rcases hlast before distance behind hsplit hbehind with hin | hsame
            · rw [length_putAll (.inr hin)]
            · rw [hbefore, hsame]
          · rw [length_putAll (.inr hin)]
        show _ + distance' (putAll goal seg hs).length = _
        rw [hend, hstart hsplit hbehind, hfar, add_sub_cancel_right]

theorem Settles.forall_meets (h : Settles hs seg.length goal.length) :
    ∀ h ∈ hs, h.Meets goal (putAll goal seg hs) := (forall_meets_iff h.length).2 h.mark

/-- A segment that is its own goal in the end has settled. -/
theorem settles_of_putAll_eq (h : putAll goal seg hs = goal) :
    Settles hs seg.length goal.length := by
  have hlength : goal.length = seg.length ∨ .length ∈ hs := by
    have hcases := length_putAll_or_mem goal seg hs
    rwa [h] at hcases
  refine ⟨hlength, (forall_meets_iff hlength).1 fun h' _ => ?_⟩
  rw [h]
  cases h' with
  | nothing => trivial
  | length | mark _ => rfl

end Hold

end OneAxis

-- ============================================================== all axes

section AllAxes

variable [AddCommGroup K] {β φ ι : Type} {attr? : β → String → Option (AttrValue K)}
  {setAttr : β → String → AttrValue K → β} {frame : β → φ} {segment : β → ι → Segment K}
  {hold : String → ι → Hold K}

/-- What it takes to see the attributes of a puppet along its axes. Puppets are compared
that have the same frame, which no attribute changes. -/
structure HasAxes (attr? : β → String → Option (AttrValue K))
    (setAttr : β → String → AttrValue K → β) (frame : β → φ) (segment : β → ι → Segment K)
    (hold : String → ι → Hold K) : Prop where
  frame_set (b : β) (name : String) (v : AttrValue K) : frame (setAttr b name v) = frame b
  put (b goal : β) (name : String) (v : AttrValue K) (i : ι) (alike : frame b = frame goal)
    (known : attr? goal name = some v) :
    segment (setAttr b name v) i = (hold name i).put (segment goal i) (segment b i)
  reads (b goal : β) (name : String) (alike : frame b = frame goal) :
    attr? b name = attr? goal name ↔ ∀ i, (hold name i).Meets (segment goal i) (segment b i)

/-- Gives attributes values, one after the other. -/
def setAll (setAttr : β → String → AttrValue K → β) (b : β) (l : List (String × AttrValue K)) : β :=
  l.foldl (fun b e => setAttr b e.1 e.2) b

omit [AddCommGroup K] in
theorem frame_setAll (hframe : ∀ b name v, frame (setAttr b name v) = frame b) (b : β)
    (l : List (String × AttrValue K)) : frame (setAll setAttr b l) = frame b :=
  List.foldlRecOn (motive := fun c => frame c = frame b) l _ rfl
    fun c hc e _ => (hframe c e.1 e.2).trans hc

theorem HasAxes.segment_setAll (h : HasAxes attr? setAttr frame segment hold) {b goal : β}
    (alike : frame b = frame goal) {l : List (String × AttrValue K)}
    (known : ∀ e ∈ l, attr? goal e.1 = some e.2) (i : ι) :
    segment (setAll setAttr b l) i
      = Hold.putAll (segment goal i) (segment b i) (l.map fun e => hold e.1 i) := by
  induction l generalizing b with
  | nil => rfl
  | cons e rest ih =>
      obtain ⟨hfirst, hrest⟩ := List.forall_mem_cons.1 known
      refine (ih ((h.frame_set b e.1 e.2).trans alike) hrest).trans ?_
      rw [h.put b goal e.1 e.2 i alike hfirst]
      rfl

/-- Values that are written are all read in the end exactly if there is a puppet that has
them all at once, and along each axis the puppet settles there. -/
theorem HasAxes.reads_setAll_iff (h : HasAxes attr? setAttr frame segment hold) (b : β)
    (l : List (String × AttrValue K)) :
    (∀ e ∈ l, attr? (setAll setAttr b l) e.1 = some e.2)
      ↔ ∃ goal, frame goal = frame b ∧ (∀ e ∈ l, attr? goal e.1 = some e.2)
        ∧ ∀ i, Hold.Settles (l.map fun e => hold e.1 i) (segment b i).length
          (segment goal i).length := by
  have hframe : frame (setAll setAttr b l) = frame b := frame_setAll h.frame_set b l
  constructor
  · intro hread
    exact ⟨_, hframe, hread, fun i =>
      Hold.settles_of_putAll_eq (h.segment_setAll hframe.symm hread i).symm⟩
  · rintro ⟨goal, hgoal, hends, hsettles⟩ e he
    rw [← hends e he, h.reads _ _ _ (hframe.trans hgoal.symm)]
    intro i
    rw [h.segment_setAll hgoal.symm hends]
    exact (hsettles i).forall_meets _ (List.mem_map_of_mem (f := fun e => hold e.1 i) he)

/-- A part of a puppet is what its attribute is along the axes. -/
structure Part.Takes (segment : β → ι → Segment K) (p : Part β K) (hold : ι → Hold K)
    (b goal : β) : Prop where
  put (i : ι) : segment (p.write b (p.read goal)) i = (hold i).put (segment goal i) (segment b i)
  reads : p.read b = p.read goal ↔ ∀ i, (hold i).Meets (segment goal i) (segment b i)

theorem Part.takes_scalar {l : Lens β K} {held : ι → Hold K} {b goal : β}
    (hput : ∀ i, segment (l.set b (l.get goal)) i = (held i).put (segment goal i) (segment b i))
    (hreads : l.get b = l.get goal ↔ ∀ i, (held i).Meets (segment goal i) (segment b i)) :
    (scalar l).Takes segment held b goal :=
  ⟨hput, (Iff.of_eq (AttrValue.scalar.injEq _ _)).trans hreads⟩

theorem Part.takes_pair {l : Lens β (K × K)} {held : ι → Hold K} {b goal : β}
    (hput : ∀ i, segment (l.set b (l.get goal)) i = (held i).put (segment goal i) (segment b i))
    (hreads : (l.get b).1 = (l.get goal).1 ∧ (l.get b).2 = (l.get goal).2
      ↔ ∀ i, (held i).Meets (segment goal i) (segment b i)) :
    (pair l).Takes segment held b goal := by
  refine ⟨hput, Iff.trans ?_ hreads⟩
  simp [read, AttrValue.pair]

/-- Attributes that stand for parts have the axes of these. -/
theorem hasAxes_of_parts (part? : String → Option (Part β K))
    (hattr : ∀ b name, attr? b name = (part? name).map (Part.read b))
    (hset : ∀ b name v, setAttr b name v = (part? name).elim b fun p => p.write b v)
    (hframe : ∀ b name v, frame (setAttr b name v) = frame b)
    (hnone : ∀ name, part? name = none → hold name = fun _ => .nothing)
    (htakes : ∀ name p, part? name = some p → ∀ b goal, frame b = frame goal →
      p.Takes segment (hold name) b goal) :
    HasAxes attr? setAttr frame segment hold := by
  constructor
  case frame_set => exact hframe
  case put =>
      intro b goal name v i alike known
      obtain ⟨p, hp, rfl⟩ := Option.map_eq_some_iff.1 ((hattr goal name).symm.trans known)
      rw [hset, hp]
      exact (htakes name p hp b goal alike).put i
  case reads =>
      intro b goal name alike
      rw [hattr, hattr]
      cases hp : part? name with
      | none =>
          rw [hnone name hp]
          exact iff_of_true rfl fun _ => trivial
      | some p =>
          rw [Option.map_some, Option.map_some, Option.some.injEq]
          exact (htakes name p hp b goal alike).reads

end AllAxes

end Stagecraft
