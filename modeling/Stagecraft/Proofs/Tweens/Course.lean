/-
The course of a tween, in exact time.

A tween is the only one that writes its attributes, and time goes on in
steps of any size. Then where the attributes are depends on how much time
has passed, and not on how it was cut into steps: at each step they are
put at the share of the way that belongs to the elapsed time, whatever
was written before, and once the duration is exceeded they are put at
their ends and the tween leaves the queue.

# The invariant

A tween is `Running` with an elapsed time, or it has `Ended`. In both
states its puppet is a record and no other live task writes its names
(`Apart`), which is what makes the other tasks, before it in the queue or
behind it, invisible. One pass leads from the first state to the first or
to the second, as the duration is exceeded or not, and from the second to
the second. Nothing up to here asks what sums of deltas are; exact
arithmetic comes in where the elapsed time of a run is called their sum.
-/
import Stagecraft.Proofs.Exact
import Stagecraft.Proofs.Tweens.Writers

namespace Stagecraft

variable {κ α : Type}

-- ================================================================ passes

namespace TweenQueue

variable [Elementary α]

/-- A queue and the stage after an advance. -/
def pass (st : TweenQueue κ α × Stage α) (dt : α) : TweenQueue κ α × Stage α :=
  (st.1.advance dt st.2).2

/-- A queue and the stage after a list of advances. -/
def passes (st : TweenQueue κ α × Stage α) (dts : List α) : TweenQueue κ α × Stage α :=
  dts.foldl pass st

/-- The numbers that an advance lists as finished. -/
def lists (st : TweenQueue κ α × Stage α) (dt : α) : List TweenId :=
  (st.1.advance dt st.2).1.map (·.id)

/-- The numbers that a list of advances lists as finished. -/
def listsAll (st : TweenQueue κ α × Stage α) : List α → List TweenId
  | [] => []
  | dt :: dts => lists st dt ++ listsAll (pass st dt) dts

theorem pass_eq (st : TweenQueue κ α × Stage α) (dt : α) :
    pass st dt = (st.1.rebuilt dt, st.1.played dt st.2) := by
  unfold pass
  rw [advance_eq]

theorem lists_eq (st : TweenQueue κ α × Stage α) (dt : α) :
    lists st dt = (st.1.finishing dt).map Prod.fst := by
  unfold lists
  rw [advance_eq, List.map_map]
  rfl

theorem passes_append (st : TweenQueue κ α × Stage α) (dts more : List α) :
    passes st (dts ++ more) = passes (passes st dts) more := List.foldl_append

theorem listsAll_append (st : TweenQueue κ α × Stage α) (dts more : List α) :
    listsAll st (dts ++ more) = listsAll st dts ++ listsAll (passes st dts) more := by
  induction dts generalizing st with
  | nil => rfl
  | cons dt dts ih =>
      rw [List.cons_append, listsAll, ih, listsAll, List.append_assoc]
      rfl

/-- A tween that is taken is not done, and stands behind all others. -/
theorem push_of_animate {q r : TweenQueue κ α} {t : Tween κ α} {id : TweenId}
    (h : q.animate t = (some id, r)) : t.isDone = false ∧ q.push t = (id, r) := by
  unfold animate at h
  cases hdone : t.isDone with
  | true =>
      rw [hdone, if_pos rfl] at h
      cases h
  | false =>
      rw [hdone, if_neg Bool.false_ne_true] at h
      cases h
      exact ⟨rfl, rfl⟩

/-- What is live after an advance was live before it. -/
theorem live_rebuilt {q : TweenQueue κ α} {dt : α} {p : Task κ α} (hp : p ∈ (q.rebuilt dt).live) :
    ∃ r ∈ q.live, p = r.moved dt := by
  have hrunning : p ∈ q.running dt := List.mem_of_mem_filter hp
  obtain ⟨r, hr, heq⟩ := List.mem_map.1 (List.mem_of_mem_filter hrunning)
  exact ⟨r, hr, heq.symm⟩

end TweenQueue

open TweenQueue

-- ========================================================= the invariant

section Invariant

variable [Elementary α]

/-- The tween with an elapsed time. -/
def Tween.at (t : Tween κ α) (elapsed : α) : Tween κ α := { t with elapsed }

/-- A tween has a value for each of its names. -/
theorem Tween.exists_value {t : Tween κ α} {name : String} (h : name ∈ t.names) :
    ∃ v, (name, v) ∈ t.values := by
  rw [← Tween.map_fst_values] at h
  obtain ⟨⟨n, v⟩, hv, rfl⟩ := List.mem_map.1 h
  exact ⟨v, hv⟩

/-- Nothing but the task of the number writes the attributes of the tween, which
are those of a record. -/
structure Apart (t : Tween κ α) (id : TweenId) (st : TweenQueue κ α × Stage α) : Prop where
  numbered : st.1.Numbered
  record : st.2.HasRecord t.target
  alone : ∀ p ∈ st.1.live, p.1 ≠ id → ∀ name ∈ t.names, ¬p.Writes t.target name

/-- The tween is queued under the number, with an elapsed time that does not exceed
its duration. -/
structure Running (t : Tween κ α) (id : TweenId) (elapsed : α)
    (st : TweenQueue κ α × Stage α) : Prop extends Apart t id st where
  queued : (id, t.at elapsed) ∈ st.1.tasks
  live : (t.at elapsed).isDone = false
  nodup : t.names.Nodup
  present : ∀ name ∈ t.names, (st.2.attr? t.target name).isSome

/-- The tween has left the queue, and its attributes are at their ends. -/
structure Ended (t : Tween κ α) (id : TweenId) (st : TweenQueue κ α × Stage α) : Prop
    extends Apart t id st where
  gone : id ∉ st.1.ids
  atEnd : ∀ a ∈ t.tracks, st.2.attr? t.target a.name = some a.stop

variable {t : Tween κ α} {id : TweenId} {elapsed dt : α} {st : TweenQueue κ α × Stage α}

theorem Apart.pass (h : Apart t id st) (dt : α) : Apart t id (TweenQueue.pass st dt) := by
  rw [pass_eq]
  refine ⟨h.numbered.of_sublist (ids_rebuilt_sublist _ _) rfl, ?_, ?_⟩
  · exact hasRecord_played h.record _ dt
  · intro p hp hne name hname
    obtain ⟨r, hr, rfl⟩ := live_rebuilt hp
    exact h.alone r hr hne name hname

theorem Running.mem_live (h : Running t id elapsed st) : (id, t.at elapsed) ∈ st.1.live := by
  refine List.mem_filter.2 ⟨h.queued, ?_⟩
  unfold Task.isLive
  rw [h.live]
  rfl

/-- A step puts each attribute where the tween says. -/
theorem Running.attr?_pass (h : Running t id elapsed st) {name : String} {v : AttrValue α}
    (hv : (name, v) ∈ (t.at (elapsed + dt)).values) :
    (TweenQueue.pass st dt).2.attr? t.target name = some v := by
  have hname : name ∈ t.names := by
    have hmem := List.mem_map_of_mem (f := Prod.fst) hv
    rw [Tween.map_fst_values] at hmem
    exact hmem
  rw [pass_eq]
  exact attr?_played_of_writer (p := (id, t.at elapsed)) h.numbered h.mem_live h.record
    (h.present name hname) h.nodup hv fun r hr hne => h.alone r hr hne name hname

/-- A running tween has tracks. -/
theorem Running.isDone_at (h : Running t id elapsed st) (later : α) :
    (t.at later).isDone = decide (t.duration < later) := by
  have hlive := h.live
  unfold Tween.isDone at hlive
  rw [Bool.or_eq_false_iff] at hlive
  exact Tween.isDone_eq (t := t.at later) hlive.1

/-- A running tween does not exceed its duration. -/
theorem Running.not_over (h : Running t id elapsed st) : ¬t.duration < elapsed := by
  have hdone := h.isDone_at elapsed
  rw [h.live] at hdone
  exact of_decide_eq_false hdone.symm

/-- The number is listed if the step exceeds the duration. -/
theorem Running.mem_lists (h : Running t id elapsed st) :
    id ∈ lists st dt ↔ t.duration < elapsed + dt := by
  rw [lists_eq, mem_ids_finishing]
  have hdone : ((t.at elapsed).moved dt).isDone = decide (t.duration < elapsed + dt) :=
    h.isDone_at (elapsed + dt)
  constructor
  · rintro ⟨u, hu, -, hafter⟩
    -- the number stands for one task
    have heq : u = t.at elapsed := by
      have hget := h.numbered.get?_eq_some hu
      exact Option.some.inj (hget.symm.trans (h.numbered.get?_eq_some h.queued))
    rw [heq, hdone] at hafter
    exact of_decide_eq_true hafter
  · intro hover
    exact ⟨t.at elapsed, h.queued, h.live, hdone.trans (decide_eq_true hover)⟩

/-- It is listed once at most, as it is queued once. -/
theorem Running.count_lists (h : Running t id elapsed st) :
    (lists st dt).count id = if t.duration < elapsed + dt then 1 else 0 := by
  by_cases hover : t.duration < elapsed + dt
  · have hqueued : st.1.ids.count id = 1 :=
      List.count_eq_one_of_mem h.numbered.nodup (List.mem_map_of_mem h.queued)
    have hlisted := List.count_pos_iff.2 (h.mem_lists.2 hover)
    have hcount := count_ids_advance st.1 dt id
    rw [lists_eq] at hlisted ⊢
    rw [if_pos hover]
    omega
  · rw [if_neg hover, List.count_eq_zero]
    exact fun hid => hover (h.mem_lists.1 hid)

/-- A step that does not exceed the duration goes on. -/
theorem Running.goes_on (h : Running t id elapsed st) (hin : ¬t.duration < elapsed + dt) :
    Running t id (elapsed + dt) (TweenQueue.pass st dt) := by
  have hlive : (t.at (elapsed + dt)).isDone = false :=
    (h.isDone_at (elapsed + dt)).trans (decide_eq_false hin)
  refine ⟨h.toApart.pass dt, ?_, hlive, h.nodup, ?_⟩
  · rw [pass_eq]
    obtain hfinished | hleft := moved_mem_of_live h.mem_live dt
    · exact absurd (List.mem_map_of_mem hfinished) (by
        rw [← lists_eq]
        exact fun hid => hin (h.mem_lists.1 hid))
    · exact hleft
  · intro name hname
    obtain ⟨v, hv⟩ := Tween.exists_value (t := t.at (elapsed + dt)) hname
    rw [h.attr?_pass hv]
    rfl

/-- A step that exceeds the duration is the last one. -/
theorem Running.ends (h : Running t id elapsed st) (hover : t.duration < elapsed + dt) :
    Ended t id (TweenQueue.pass st dt) := by
  refine ⟨h.toApart.pass dt, ?_, ?_⟩
  · rw [pass_eq]
    intro hid
    -- the number is queued once, and it is listed
    have hqueued := List.nodup_iff_count_le_one.1 h.numbered.nodup id
    have hlisted : (lists st dt).count id = _ := h.count_lists
    have hleft : 0 < (st.1.rebuilt dt).ids.count id := List.count_pos_iff.2 hid
    have hcount := count_ids_advance st.1 dt id
    rw [if_pos hover, lists_eq] at hlisted
    omega
  · intro a ha
    refine h.attr?_pass ?_
    unfold Tween.values
    rw [if_pos (show (t.at (elapsed + dt)).duration < (t.at (elapsed + dt)).elapsed from hover)]
    exact List.mem_map.2 ⟨a, ha, rfl⟩

/-- What has ended is listed no more. -/
theorem Ended.not_mem_lists (h : Ended t id st) : id ∉ lists st dt := by
  rw [lists_eq]
  exact fun hid => h.gone (ids_finishing_subset st.1 dt hid)

/-- What has ended stays at its ends. -/
theorem Ended.pass (h : Ended t id st) (dt : α) : Ended t id (TweenQueue.pass st dt) := by
  refine ⟨h.toApart.pass dt, ?_, ?_⟩
  · rw [pass_eq]
    exact fun hid => h.gone ((ids_rebuilt_sublist st.1 dt).subset hid)
  · intro a ha
    rw [pass_eq]
    refine (attr?_played_of_quiet h.record fun p hp => ?_).trans (h.atEnd a ha)
    have hne : p.1 ≠ id := by
      rintro rfl
      exact h.gone (List.mem_map_of_mem (List.mem_of_mem_filter hp))
    exact h.alone p hp hne a.name (List.mem_map_of_mem ha)

/-- An attribute that no live task writes keeps its value along a run. -/
theorem attr?_passes_of_quiet {i : PuppetId} {name : String} (h : st.2.HasRecord i)
    (hquiet : ∀ p ∈ st.1.live, ¬p.Writes i name) (dts : List α) :
    (passes st dts).2.attr? i name = st.2.attr? i name := by
  induction dts generalizing st with
  | nil => rfl
  | cons dt dts ih =>
      have hstep : (pass st dt).2.attr? i name = st.2.attr? i name := by
        rw [pass_eq]
        exact attr?_played_of_quiet h hquiet
      have hrecord : (pass st dt).2.HasRecord i := by
        rw [pass_eq]
        exact hasRecord_played h _ dt
      have hstill : ∀ p ∈ (pass st dt).1.live, ¬p.Writes i name := by
        rw [pass_eq]
        intro p hp
        obtain ⟨r, hr, rfl⟩ := live_rebuilt hp
        exact hquiet r hr
      exact (ih hrecord hstill).trans hstep

end Invariant

-- ============================================================= exact time

section Exact

variable {K : Type} [Field K] [LinearOrder K] [FloorRing K]

/-- The value is the share `n` of the way from the first value to the second,
number by number. -/
inductive AttrValue.Share (n : K) : AttrValue K → AttrValue K → AttrValue K → Prop where
  | scalar (x y : K) : Share n (.scalar x) (.scalar y) (.scalar (x + (y - x) * n))
  | array (xs ys zs : List K) (hx : xs.length = zs.length) (hy : ys.length = zs.length)
      (hz : ∀ k (h : k < zs.length), zs[k] = xs[k] + (ys[k] - xs[k]) * n) :
      Share n (.array xs) (.array ys) (.array zs)

theorem AttrValue.share_interpolate {start stop : AttrValue K} (n : K)
    (h : start.sameShape stop = true) : Share n start stop (interpolate start stop n) := by
  cases start with
  | scalar x =>
      cases stop with
      | scalar y => exact .scalar x y
      | array ys => cases h
  | array xs =>
      cases stop with
      | scalar y => cases h
      | array ys =>
          have hlength : xs.length = ys.length := by simpa [sameShape] using h
          refine .array xs ys _ ?_ ?_ ?_
          · rw [List.length_zipWith, hlength, Nat.min_self]
          · rw [List.length_zipWith, hlength, Nat.min_self]
          · intro k hk
            rw [List.getElem_zipWith]

variable [Curves K] [IsStrictOrderedRing K] {t : Tween κ K} {id : TweenId}
  {st : TweenQueue κ K × Stage K} {dts : List K}

/-- Where a tween is after a list of steps. -/
theorem Running.course (h : Running t id 0 st) (hnonneg : ∀ dt ∈ dts, 0 ≤ dt) :
    (dts.sum ≤ t.duration → Running t id dts.sum (passes st dts))
      ∧ (t.duration < dts.sum → Ended t id (passes st dts)) := by
  have hstart := h.not_over
  induction dts using List.reverseRecOn with
  | nil =>
      rw [List.sum_nil]
      exact ⟨fun _ => h, fun hover => absurd hover hstart⟩
  | append_singleton dts dt ih =>
      rw [List.forall_mem_append, List.forall_mem_singleton] at hnonneg
      obtain ⟨hbefore, hdt⟩ := hnonneg
      obtain ⟨hrunning, hended⟩ := ih hbefore
      rw [passes_append, List.sum_append, List.sum_singleton]
      constructor
      · intro hin
        exact (hrunning (by linarith)).goes_on (not_lt.2 hin)
      · intro hover
        by_cases hin : dts.sum ≤ t.duration
        · exact (hrunning hin).ends hover
        · exact (hended (not_le.1 hin)).pass dt

/-- After a list of steps within the duration, the attributes are where the tween
says for the time that has passed. -/
theorem Running.attr?_passes (h : Running t id 0 st) (hne : dts ≠ [])
    (hnonneg : ∀ dt ∈ dts, 0 ≤ dt) (hin : dts.sum ≤ t.duration) {name : String}
    {v : AttrValue K} (hv : (name, v) ∈ (t.at dts.sum).values) :
    (passes st dts).2.attr? t.target name = some v := by
  obtain rfl | ⟨past, dt, rfl⟩ := List.eq_nil_or_concat' dts
  · exact absurd rfl hne
  · rw [List.forall_mem_append, List.forall_mem_singleton] at hnonneg
    obtain ⟨hbefore, hdt⟩ := hnonneg
    rw [List.sum_append, List.sum_singleton] at hin hv
    have hpast := (h.course hbefore).1 (by linarith)
    rw [passes_append]
    exact hpast.attr?_pass hv

/-- The step that lists the tween is the one in which the sum of the deltas comes
to exceed the duration. -/
theorem Running.count_lists_passes (h : Running t id 0 st) (hnonneg : ∀ dt ∈ dts, 0 ≤ dt) (dt : K) :
    (lists (passes st dts) dt).count id
      = if dts.sum ≤ t.duration ∧ t.duration < dts.sum + dt then 1 else 0 := by
  obtain ⟨hrunning, hended⟩ := h.course hnonneg
  by_cases hin : dts.sum ≤ t.duration
  · rw [(hrunning hin).count_lists]
    simp only [hin, true_and]
  · rw [if_neg fun hboth => hin hboth.1, List.count_eq_zero]
    exact (hended (not_le.1 hin)).not_mem_lists

/-- A run lists the tween once if it exceeds the duration, and else never. -/
theorem Running.count_listsAll (h : Running t id 0 st) (hnonneg : ∀ dt ∈ dts, 0 ≤ dt) :
    (listsAll st dts).count id = if t.duration < dts.sum then 1 else 0 := by
  have hstart := h.not_over
  induction dts using List.reverseRecOn with
  | nil =>
      rw [List.sum_nil, if_neg hstart]
      rfl
  | append_singleton dts dt ih =>
      rw [List.forall_mem_append, List.forall_mem_singleton] at hnonneg
      obtain ⟨hbefore, hdt⟩ := hnonneg
      have hlast : listsAll (passes st dts) [dt] = lists (passes st dts) dt := List.append_nil _
      rw [listsAll_append, hlast, List.count_append, ih hbefore, h.count_lists_passes hbefore,
        List.sum_append, List.sum_singleton]
      by_cases hover : t.duration < dts.sum
      · rw [if_pos hover, if_neg fun hboth => absurd hboth.1 (not_le.2 hover),
          if_pos (by linarith)]
      · rw [if_neg hover, zero_add]
        simp only [not_lt.1 hover, true_and]

-- ============================================================= the result

/-- The course of a tween that was queued under the number, with nothing of its
duration elapsed, from a queue and a stage on. -/
structure Course (t : Tween κ K) (id : TweenId) (st : TweenQueue κ K × Stage K) : Prop where
  /-- As long as the sum of the deltas does not exceed the duration, the tween is
  queued with that sum elapsed, and its attributes are at the share of the way
  that the easing gives for it. -/
  running : ∀ dts, dts ≠ [] → (∀ dt ∈ dts, 0 ≤ dt) → dts.sum ≤ t.duration →
    (passes st dts).1.get? id = some (t.at dts.sum)
      ∧ ∀ a ∈ t.tracks, ∃ v, (passes st dts).2.attr? t.target a.name = some v
        ∧ AttrValue.Share (t.easing.apply (dts.sum / t.duration)) a.start a.stop v
  /-- After that it has left the queue, and its attributes are at their ends. -/
  ended : ∀ dts, (∀ dt ∈ dts, 0 ≤ dt) → t.duration < dts.sum →
    (passes st dts).1.get? id = none
      ∧ ∀ a ∈ t.tracks, (passes st dts).2.attr? t.target a.name = some a.stop
  /-- The advance that lists it as finished is the one in which the sum comes to
  exceed the duration. -/
  listed : ∀ past dt, (∀ x ∈ past, 0 ≤ x) → 0 ≤ dt →
    (lists (passes st past) dt).count id
      = if past.sum ≤ t.duration ∧ t.duration < past.sum + dt then 1 else 0
  /-- No two advances list it. -/
  listed_once : ∀ dts, (∀ dt ∈ dts, 0 ≤ dt) →
    (listsAll st dts).count id = if t.duration < dts.sum then 1 else 0
  /-- What no tween of the queue tracks keeps its value. -/
  untouched : ∀ name, (∀ p ∈ st.1.live, ¬p.Writes t.target name) →
    ∀ dts, (passes st dts).2.attr? t.target name = st.2.attr? t.target name
  /-- How the time is cut into deltas makes no difference. -/
  same : ∀ dts dts', dts ≠ [] → dts' ≠ [] → (∀ dt ∈ dts, 0 ≤ dt) → (∀ dt ∈ dts', 0 ≤ dt) →
    dts.sum = dts'.sum →
    (passes st dts).1.get? id = (passes st dts').1.get? id
      ∧ ∀ name, name ∈ t.names ∨ (∀ p ∈ st.1.live, ¬p.Writes t.target name) →
        (passes st dts).2.attr? t.target name = (passes st dts').2.attr? t.target name

theorem Running.follows_course (h : Running t id 0 st)
    (hshape : ∀ a ∈ t.tracks, a.start.sameShape a.stop = true) : Course t id st := by
  have hrun : ∀ {dts : List K}, (∀ dt ∈ dts, 0 ≤ dt) → dts.sum ≤ t.duration →
      (passes st dts).1.get? id = some (t.at dts.sum) := by
    intro dts hnonneg hin
    have hnow := (h.course hnonneg).1 hin
    exact hnow.numbered.get?_eq_some hnow.queued
  have hend : ∀ {dts : List K}, (∀ dt ∈ dts, 0 ≤ dt) → t.duration < dts.sum →
      Ended t id (passes st dts) := fun hnonneg => (h.course hnonneg).2
  constructor
  case running =>
    intro dts hne hnonneg hin
    refine ⟨hrun hnonneg hin, fun a ha => ?_⟩
    refine ⟨_, h.attr?_passes hne hnonneg hin ?_, AttrValue.share_interpolate _ (hshape a ha)⟩
    unfold Tween.values
    rw [if_neg (show ¬(t.at dts.sum).duration < (t.at dts.sum).elapsed from not_lt.2 hin)]
    exact List.mem_map.2 ⟨a, ha, rfl⟩
  case ended =>
    intro dts hnonneg hover
    exact ⟨get?_eq_none_iff.2 (hend hnonneg hover).gone, (hend hnonneg hover).atEnd⟩
  case listed => exact fun past dt hpast _ => h.count_lists_passes hpast dt
  case listed_once => exact fun dts hnonneg => h.count_listsAll hnonneg
  case untouched => exact fun name hquiet dts => attr?_passes_of_quiet h.record hquiet dts
  case same =>
    intro dts dts' hne hne' hnonneg hnonneg' hsum
    by_cases hin : dts.sum ≤ t.duration
    · have hin' : dts'.sum ≤ t.duration := hsum ▸ hin
      refine ⟨?_, ?_⟩
      · rw [hrun hnonneg hin, hrun hnonneg' hin', hsum]
      · rintro name (hname | hquiet)
        · obtain ⟨v, hv⟩ := Tween.exists_value (t := t.at dts.sum) hname
          rw [h.attr?_passes hne hnonneg hin hv]
          rw [hsum] at hv
          rw [h.attr?_passes hne' hnonneg' hin' hv]
        · rw [attr?_passes_of_quiet h.record hquiet, attr?_passes_of_quiet h.record hquiet]
    · have hover : t.duration < dts.sum := not_le.1 hin
      have hover' : t.duration < dts'.sum := hsum ▸ hover
      have hdone := hend hnonneg hover
      have hdone' := hend hnonneg' hover'
      refine ⟨?_, ?_⟩
      · rw [get?_eq_none_iff.2 hdone.gone, get?_eq_none_iff.2 hdone'.gone]
      · rintro name (hname | hquiet)
        · obtain ⟨a, ha, rfl⟩ := List.mem_map.1 hname
          rw [hdone.atEnd a ha, hdone'.atEnd a ha]
        · rw [attr?_passes_of_quiet h.record hquiet, attr?_passes_of_quiet h.record hquiet]

/-- A tween that is made for a record, with any easing, and queued while no other
task of the queue writes its attributes: where it is, and when it ends, depends
on the time that has passed alone. -/
theorem tween_follows_its_course {made s : Stage K} {target : PuppetId} {duration : K}
    {requests : List (String × AttrValue K)} {t : Tween κ K}
    (hnew : Tween.new made target duration requests = .ok t)
    (easing : Easing) (onComplete : Option κ) {q r : TweenQueue κ K} {id : TweenId}
    (hq : q.Numbered) (hqueued : q.animate { t with easing, onComplete } = (some id, r))
    (hrecord : s.HasRecord target) (hpresent : ∀ name ∈ t.names, (s.attr? target name).isSome)
    (halone : ∀ p ∈ q.live, ∀ name ∈ t.names, ¬p.Writes target name) :
    Course { t with easing, onComplete } id (r, s) := by
  obtain ⟨htarget, helapsed, hsound⟩ := Tween.new_parts hnew
  obtain ⟨hlive, hpush⟩ := push_of_animate hqueued
  have hat : ({ t with easing, onComplete } : Tween κ K).at 0 = { t with easing, onComplete } := by
    unfold Tween.at
    rw [← Scalar.zero_exact, ← helapsed]
  have hr : r = (q.push { t with easing, onComplete }).2 := by rw [hpush]
  have hid : id = ⟨q.next⟩ := congrArg Prod.fst hpush.symm
  subst htarget hr hid
  have hstart : Running { t with easing, onComplete } ⟨q.next⟩ 0
      ((q.push { t with easing, onComplete }).2, s) := by
    refine ⟨⟨numbered_push hq _, hrecord, ?_⟩, ?_, ?_, hsound.nodup, hpresent⟩
    · intro p hp hne name hname
      obtain ⟨hqueue, hplive⟩ := List.mem_filter.1 hp
      rcases List.mem_append.1 hqueue with hold | hself
      · exact halone p (List.mem_filter.2 ⟨hold, hplive⟩) name hname
      · exact absurd (congrArg Prod.fst (List.mem_singleton.1 hself)) hne
    · rw [hat]
      exact List.mem_append_right _ (List.mem_singleton.2 rfl)
    · rw [hat]
      exact hlive
  exact hstart.follows_course hsound.shape

end Exact

/-- A stage of real numbers with a record of one attribute. -/
private def oneRecord : Stage ℝ := { puppets := #[.record [("x", .scalar 0)]] }

/-- A tween over two seconds that moves an attribute from 0 to 4 has it at 1 after
two quarters of a second, as the share of the way is a quarter then. -/
theorem half_a_second_of_two : ∃ (t : Tween ℕ ℝ) (r : TweenQueue ℕ ℝ),
    Tween.new oneRecord ⟨0⟩ 2 [("x", .scalar 4)] = .ok t
      ∧ (empty : TweenQueue ℕ ℝ).animate t = (some ⟨0⟩, r)
      ∧ Course t ⟨0⟩ (r, oneRecord)
      ∧ (passes (r, oneRecord) [1 / 4, 1 / 4]).2.attr? ⟨0⟩ "x" = some (.scalar 1) := by
  have htwo : isDelay (2 : ℝ) = true := (isDelay_exact 2).2 (by norm_num)
  have hnew : Tween.new oneRecord ⟨0⟩ 2 [("x", .scalar 4)]
      = .ok (⟨⟨0⟩, [⟨"x", .scalar 0, .scalar 4⟩], 0.0, 2, .linear, none⟩ : Tween ℕ ℝ) := by
    unfold Tween.new
    rw [ensurePositive_of_isDelay htwo]
    rfl
  have hrecord : oneRecord.HasRecord ⟨0⟩ := ⟨_, rfl⟩
  have hqueued : (empty : TweenQueue ℕ ℝ).animate
      ⟨⟨0⟩, [⟨"x", .scalar 0, .scalar 4⟩], 0.0, 2, .linear, none⟩
      = (some ⟨0⟩, ⟨[(⟨0⟩, ⟨⟨0⟩, [⟨"x", .scalar 0, .scalar 4⟩], 0.0, 2, .linear, none⟩)], 1⟩) := by
    unfold animate Tween.isDone
    rw [if_neg]
    · rfl
    · rw [Scalar.zero_exact]
      norm_num
  have hcourse := tween_follows_its_course hnew .linear none numbered_empty hqueued hrecord
    (fun name hname => by rw [List.mem_singleton.1 hname]; rfl)
    (fun p hp => absurd hp List.not_mem_nil)
  refine ⟨_, _, hnew, hqueued, hcourse, ?_⟩
  obtain ⟨-, hvalues⟩ := hcourse.running [1 / 4, 1 / 4] (by simp) (by norm_num) (by norm_num)
  obtain ⟨v, hv, hshare⟩ := hvalues _ List.mem_cons_self
  refine hv.trans (congrArg some ?_)
  cases hshare
  unfold Easing.apply
  norm_num

end Stagecraft
