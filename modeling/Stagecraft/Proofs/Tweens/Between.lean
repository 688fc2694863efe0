/-
Between start and end, in exact time.

What a step of a tween leaves of an attribute is a share of the way from its
start to its end, and past the duration the share is all of it
(`Tween.share_valueAt`). So where an attribute can be is a matter of which
shares there can be: none outside the way for a curve without a sine, and
none below an earlier one for a curve that never turns back. The last step
is no exception, since a curve ends where the way does.

A share says the same of every number of an attribute, whichever of its start
and end is the greater (`AttrValue.Between`). The rest is that steps do leave
these shares (`Tween.LeavesShares`).

# Who else is there

A tween may be stepped on its own or by a queue. Either way others need not
stand still: between two steps the stage may change, tasks may come and go,
and all that is asked of them is to leave the tween and its attributes
(`Tween.Updates`, `TweenQueue.Advances`). What a step writes does not depend
on what others did, so where the attributes are after a list of steps is the
same along all these runs, and two moments need not be compared along one.
-/
import Stagecraft.Proofs.Easing.Curves
import Stagecraft.Proofs.Tweens.Course

namespace Stagecraft

variable {κ K : Type} [Field K] [LinearOrder K] [FloorRing K]

-- ================================================================ values

namespace AttrValue

/-- Number by number, the third value lies between the first and the second, or is
one of them. -/
inductive Between : AttrValue K → AttrValue K → AttrValue K → Prop where
  | scalar (x y z : K) (hz : z ∈ Set.uIcc x y) : Between (.scalar x) (.scalar y) (.scalar z)
  | array (xs ys zs : List K) (hx : xs.length = zs.length) (hy : ys.length = zs.length)
      (hz : ∀ k (_ : k < xs.length) (_ : k < ys.length) (_ : k < zs.length),
        zs[k] ∈ Set.uIcc xs[k] ys[k]) :
      Between (.array xs) (.array ys) (.array zs)

variable {start stop v w : AttrValue K} {n m : K}

/-- Nothing of the way is where it starts. -/
theorem Share.eq_start (h : Share 0 start stop v) : v = start := by
  cases h with
  | scalar x y => rw [mul_zero, add_zero]
  | array xs ys zs hx hy hz =>
      refine congrArg AttrValue.array (List.ext_getElem hx.symm fun k hk _ => ?_)
      rw [hz k hk, mul_zero, add_zero]

/-- All of the way is where it ends. -/
theorem Share.eq_stop (h : Share 1 start stop v) : v = stop := by
  cases h with
  | scalar x y => rw [mul_one, add_sub_cancel]
  | array xs ys zs hx hy hz =>
      refine congrArg AttrValue.array (List.ext_getElem hy.symm fun k hk _ => ?_)
      rw [hz k hk, mul_one, add_sub_cancel]

theorem share_zero (h : start.sameShape stop = true) : Share 0 start stop start := by
  have hshare := share_interpolate 0 h
  rwa [hshare.eq_start] at hshare

theorem share_one (h : start.sameShape stop = true) : Share 1 start stop stop := by
  have hshare := share_interpolate 1 h
  rwa [hshare.eq_stop] at hshare

variable [IsStrictOrderedRing K]

/-- Who has more of the way behind him is nearer to its end, and not beyond it. -/
theorem add_mul_mem_uIcc (x y : K) (hnm : n ≤ m) (hm : m ≤ 1) :
    x + (y - x) * m ∈ Set.uIcc (x + (y - x) * n) y := by
  rw [Set.mem_uIcc]
  rcases le_total x y with hxy | hyx
  · refine .inl ⟨?_, ?_⟩
    · exact add_le_add_right (mul_le_mul_of_nonneg_left hnm (sub_nonneg.2 hxy)) x
    · have hway := mul_le_mul_of_nonneg_left hm (sub_nonneg.2 hxy)
      linarith
  · refine .inr ⟨?_, ?_⟩
    · have hway := mul_le_mul_of_nonpos_left hm (sub_nonpos.2 hyx)
      linarith
    · exact add_le_add_right (mul_le_mul_of_nonpos_left hnm (sub_nonpos.2 hyx)) x

theorem Share.between (hv : Share n start stop v) (hw : Share m start stop w) (hnm : n ≤ m)
    (hm : m ≤ 1) : Between v stop w := by
  cases hv with
  | scalar x y =>
      cases hw
      exact .scalar _ _ _ (add_mul_mem_uIcc x y hnm hm)
  | array xs ys vs hx hy hvs =>
      cases hw with
      | array _ _ ws hx' hy' hws =>
          refine .array vs ys ws (hx.symm.trans hx') hy' fun k _ _ _ => ?_
          rw [hvs, hws]
          exact add_mul_mem_uIcc _ _ hnm hm

end AttrValue

-- ================================================================ shares

section Shares

variable [Curves K] {t : Tween κ K} {elapsed later : K}

/-- The share of the way that a tween has behind it at an elapsed time. -/
def Tween.shareAt (t : Tween κ K) (elapsed : K) : K :=
  if t.duration < elapsed then 1 else t.easing.apply (elapsed / t.duration)

theorem Tween.share_valueAt {a : Track K} (h : a.start.sameShape a.stop = true) (elapsed : K) :
    AttrValue.Share (t.shareAt elapsed) a.start a.stop (t.valueAt elapsed a) := by
  unfold shareAt valueAt
  split
  · exact AttrValue.share_one h
  · exact AttrValue.share_interpolate _ h

variable [IsStrictOrderedRing K]

/-- No share is outside the way. -/
theorem Tween.shareAt_mem (hcurve : t.easing.isElastic = false) (hduration : 0 < t.duration)
    (hnow : 0 ≤ elapsed) : 0 ≤ t.shareAt elapsed ∧ t.shareAt elapsed ≤ 1 := by
  unfold shareAt
  split
  next => exact ⟨zero_le_one, le_rfl⟩
  next hin =>
      refine Easing.apply_mem hcurve (div_nonneg hnow hduration.le) ?_
      exact (div_le_one hduration).2 (not_lt.1 hin)

/-- A steady curve leaves no share behind a later one; past the duration there is no
more to gain. -/
theorem Tween.shareAt_le (hsteady : t.easing.isSteady = true)
    (hcurve : t.easing.isElastic = false) (hduration : 0 < t.duration) (hnow : 0 ≤ elapsed)
    (hlater : elapsed ≤ later) : t.shareAt elapsed ≤ t.shareAt later := by
  by_cases hover : t.duration < later
  · have hall : t.shareAt later = 1 := if_pos hover
    rw [hall]
    exact (shareAt_mem hcurve hduration hnow).2
  · have hin : later ≤ t.duration := not_lt.1 hover
    unfold shareAt
    rw [if_neg hover, if_neg (not_lt.2 (hlater.trans hin))]
    refine (Easing.slopeIn_steady hsteady).le (div_nonneg hnow hduration.le) ?_ ?_
    · exact div_le_div_of_nonneg_right hlater hduration.le
    · exact (div_le_one hduration).2 hin

end Shares

-- ================================================================= steps

section Steps

variable {α : Type} [Elementary α] {t : Tween κ α} {s : Stage α} {id : TweenId}

/-- The stage has the attributes of a record that a tween writes as another stage has them. -/
structure Tween.SameOn (t : Tween κ α) (s s' : Stage α) : Prop where
  record : s'.HasRecord t.target
  attr (name : String) (hname : name ∈ t.names) :
    s'.attr? t.target name = s.attr? t.target name

/-- The tween is stepped by the deltas, and before and after each step others may do to the
stage what they like, if they leave its attributes. -/
inductive Tween.Updates (st : Tween κ α × Stage α) : List α → Tween κ α × Stage α → Prop where
  | start : Updates st [] st
  | update {dts : List α} {t : Tween κ α} {s : Stage α} (past : Updates st dts (t, s)) (dt : α) :
      Updates st (dts ++ [dt]) (t.update dt s)
  | meanwhile {dts : List α} {t : Tween κ α} {s s' : Stage α} (past : Updates st dts (t, s))
      (same : t.SameOn s s') : Updates st dts (t, s')

/-- The queue is advanced by the deltas, and meanwhile others may do to it and to the stage
what they like, if they leave the tween of the number and its attributes, and no other live
task comes to write these. -/
inductive TweenQueue.Advances (t : Tween κ α) (id : TweenId) (st : TweenQueue κ α × Stage α) :
    List α → TweenQueue κ α × Stage α → Prop where
  | start : Advances t id st [] st
  | advance {dts : List α} {st' : TweenQueue κ α × Stage α} (past : Advances t id st dts st')
      (dt : α) : Advances t id st (dts ++ [dt]) (pass st' dt)
  | meanwhile {dts : List α} {st' st'' : TweenQueue κ α × Stage α}
      (past : Advances t id st dts st') (apart : Apart t id st'')
      (kept : st''.1.get? id = st'.1.get? id) (same : t.SameOn st'.2 st''.2) :
      Advances t id st dts st''

/-- What a tween writes are the values that it has then. -/
theorem Tween.mem_values_at (t : Tween κ α) {a : Track α} (ha : a ∈ t.tracks) (elapsed : α) :
    (a.name, t.valueAt elapsed a) ∈ (t.at elapsed).values := by
  have hvalues : (t.at elapsed).values = t.tracks.map fun a => (a.name, t.valueAt elapsed a) := by
    unfold values valueAt
    by_cases hover : t.duration < elapsed
    · simp only [if_pos hover]
      exact if_pos hover
    · simp only [if_neg hover]
      exact if_neg hover
  rw [hvalues]
  exact List.mem_map_of_mem ha

/-- A step puts each attribute where the tween has it then. -/
theorem Tween.attr?_update (h : s.HasRecord t.target) (hnodup : t.names.Nodup) {a : Track α}
    (ha : a ∈ t.tracks) (hpresent : (s.attr? t.target a.name).isSome) (dt : α) :
    (t.update dt s).2.attr? t.target a.name = some (t.valueAt (t.elapsed + dt) a) :=
  Task.attr?_play_of_writes (p := (⟨0⟩, t)) h hpresent hnodup (t.mem_values_at ha (t.elapsed + dt))

variable {elapsed : α} {st st' : TweenQueue κ α × Stage α}

/-- Who leaves the tween and its attributes leaves it running, ... -/
theorem Running.meanwhile (h : Running t id elapsed st) (hapart : Apart t id st')
    (hkept : st'.1.get? id = st.1.get? id) (hsame : t.SameOn st.2 st'.2) :
    Running t id elapsed st' := by
  refine ⟨hapart, ?_, h.live, h.nodup, fun name hname => ?_⟩
  · exact TweenQueue.mem_of_get? (hkept.trans (h.numbered.get?_eq_some h.queued))
  · rw [hsame.attr name hname]
    exact h.present name hname

/-- ... or leaves it ended. -/
theorem Ended.meanwhile (h : Ended t id st) (hapart : Apart t id st')
    (hkept : st'.1.get? id = st.1.get? id) (hsame : t.SameOn st.2 st'.2) : Ended t id st' := by
  refine ⟨hapart, ?_, fun a ha => ?_⟩
  · rw [← TweenQueue.get?_eq_none_iff, hkept]
    exact TweenQueue.get?_eq_none_iff.2 h.gone
  · exact (hsame.attr a.name (List.mem_map_of_mem ha)).trans (h.atEnd a ha)

end Steps

open TweenQueue

/-- Whether the stages after lists of steps have the attributes of a tween where the
tween has them for the time that has passed. -/
def Tween.LeavesShares [Curves K] (t : Tween κ K) (After : List K → Stage K → Prop) : Prop :=
  ∀ dts s, After dts s → dts ≠ [] → (∀ dt ∈ dts, 0 ≤ dt) → ∀ a ∈ t.tracks,
    s.attr? t.target a.name = some (t.valueAt dts.sum a)

section Leaving

variable [Curves K] {t : Tween κ K} {s : Stage K} {id : TweenId}
  {st st' : TweenQueue κ K × Stage K} {dts : List K}

/-- What steps make of a tween, and what they leave of the stage. -/
structure Tween.UpdatedTo (t : Tween κ K) (dts : List K) (st : Tween κ K × Stage K) : Prop where
  tween : st.1 = t.at dts.sum
  record : st.2.HasRecord t.target
  present (name : String) (hname : name ∈ t.names) : (st.2.attr? t.target name).isSome
  shares (hne : dts ≠ []) (a : Track K) (ha : a ∈ t.tracks) :
    st.2.attr? t.target a.name = some (t.valueAt dts.sum a)

theorem Tween.Updates.updatedTo {st : Tween κ K × Stage K} (h : Updates (t, s) dts st)
    (hstart : t.UpdatedTo [] (t, s)) (hnodup : t.names.Nodup) : t.UpdatedTo dts st := by
  induction h with
  | start => exact hstart
  | @update dts u s' _ dt ih =>
      obtain rfl : u = t.at dts.sum := ih.tween
      have hsum : (dts ++ [dt]).sum = dts.sum + dt := by
        rw [List.sum_append, List.sum_singleton]
      have hread (a : Track K) (ha : a ∈ t.tracks) :
          ((t.at dts.sum).update dt s').2.attr? t.target a.name
            = some (t.valueAt (dts.sum + dt) a) :=
        attr?_update (t := t.at dts.sum) ih.record hnodup ha
          (ih.present a.name (List.mem_map_of_mem ha)) dt
      refine ⟨?_, ih.record.setAttrs _ _, fun name hname => ?_, fun _ => hsum ▸ hread⟩
      · rw [hsum]
        rfl
      · obtain ⟨a, ha, rfl⟩ := List.mem_map.1 hname
        rw [hread a ha]
        rfl
  | @meanwhile dts u s' s'' _ hsame ih =>
      obtain rfl : u = t.at dts.sum := ih.tween
      refine ⟨rfl, hsame.record, fun name hname => ?_, fun hne a ha => ?_⟩
      · rw [show s''.attr? t.target name = s'.attr? t.target name from hsame.attr name hname]
        exact ih.present name hname
      · exact (hsame.attr a.name (List.mem_map_of_mem ha)).trans (ih.shares hne a ha)

/-- A tween that has not begun runs once it is queued where no other live task writes its
attributes. -/
theorem running_of_animate (hbegun : t.elapsed = 0) (h : s.HasRecord t.target)
    (hnodup : t.names.Nodup) (hpresent : ∀ name ∈ t.names, (s.attr? t.target name).isSome)
    {q r : TweenQueue κ K} (hq : q.Numbered) (hqueued : q.animate t = (some id, r))
    (halone : ∀ p ∈ q.live, ∀ name ∈ t.names, ¬p.Writes t.target name) :
    Running t id 0 (r, s) := by
  obtain ⟨hlive, hpush⟩ := push_of_animate hqueued
  have hat : t.at 0 = t := by
    rw [← hbegun]
    rfl
  obtain rfl : (q.push t).2 = r := congrArg Prod.snd hpush
  obtain rfl : ⟨q.next⟩ = id := congrArg Prod.fst hpush
  refine ⟨⟨numbered_push hq t, h, ?_⟩, ?_, ?_, hnodup, hpresent⟩
  · intro p hp hne name hname
    obtain ⟨hqueue, hplive⟩ := List.mem_filter.1 hp
    rcases List.mem_append.1 hqueue with hold | hself
    · exact halone p (List.mem_filter.2 ⟨hold, hplive⟩) name hname
    · exact absurd (congrArg Prod.fst (List.mem_singleton.1 hself)) hne
  · rw [hat]
    exact List.mem_append_right _ (List.mem_singleton.2 rfl)
  · rw [hat]
    exact hlive

/-- What advances make of the task of a tween, and what they leave of the stage. -/
structure Tween.AdvancedTo (t : Tween κ K) (id : TweenId) (dts : List K)
    (st : TweenQueue κ K × Stage K) : Prop where
  running (hin : dts.sum ≤ t.duration) : Running t id dts.sum st
  ended (hover : t.duration < dts.sum) : Ended t id st
  shares (hne : dts ≠ []) (a : Track K) (ha : a ∈ t.tracks) :
    st.2.attr? t.target a.name = some (t.valueAt dts.sum a)

/-- What has ended is at its ends, where the tween has it then. -/
theorem Ended.attr?_eq_valueAt (h : Ended t id st) (hover : t.duration < dts.sum) {a : Track K}
    (ha : a ∈ t.tracks) : st.2.attr? t.target a.name = some (t.valueAt dts.sum a) := by
  have hvalue : t.valueAt dts.sum a = a.stop := if_pos hover
  rw [hvalue]
  exact h.atEnd a ha

variable [IsStrictOrderedRing K]

theorem Tween.AdvancedTo.advance (h : t.AdvancedTo id dts st) {dt : K} (hdt : 0 ≤ dt) :
    t.AdvancedTo id (dts ++ [dt]) (pass st dt) := by
  have hsum : (dts ++ [dt]).sum = dts.sum + dt := by
    rw [List.sum_append, List.sum_singleton]
  constructor
  case running =>
      intro hin
      rw [hsum] at hin ⊢
      exact (h.running (by linarith)).goes_on (not_lt.2 hin)
  case ended =>
      intro hover
      rw [hsum] at hover
      by_cases hin : dts.sum ≤ t.duration
      · exact (h.running hin).ends hover
      · exact (h.ended (not_le.1 hin)).pass dt
  case shares =>
      intro _ a ha
      by_cases hin : dts.sum ≤ t.duration
      · rw [hsum]
        exact (h.running hin).attr?_pass (t.mem_values_at ha _)
      · have hover : t.duration < (dts ++ [dt]).sum := by linarith
        exact ((h.ended (not_le.1 hin)).pass dt).attr?_eq_valueAt hover ha

theorem TweenQueue.Advances.advancedTo (h : Advances t id st dts st') (hstart : Running t id 0 st)
    (hnonneg : ∀ dt ∈ dts, 0 ≤ dt) : t.AdvancedTo id dts st' := by
  induction h with
  | start =>
      refine ⟨fun _ => hstart, fun hover => ?_, fun hne => absurd rfl hne⟩
      exact absurd hover hstart.not_over
  | advance _ dt ih =>
      rw [List.forall_mem_append, List.forall_mem_singleton] at hnonneg
      exact (ih hnonneg.1).advance hnonneg.2
  | meanwhile _ hapart hkept hsame ih =>
      refine ⟨fun hin => ?_, fun hover => ?_, fun hne a ha => ?_⟩
      · exact ((ih hnonneg).running hin).meanwhile hapart hkept hsame
      · exact ((ih hnonneg).ended hover).meanwhile hapart hkept hsame
      · rw [hsame.attr a.name (List.mem_map_of_mem ha)]
        exact (ih hnonneg).shares hne a ha

end Leaving

-- ============================================================= the result

section Result

variable [Curves K] {t : Tween κ K}

/-- A tween that is made has a duration. -/
theorem Tween.duration_pos_of_new {made : Stage K} {target : PuppetId} {duration : K}
    {requests : List (String × AttrValue K)}
    (h : Tween.new made target duration requests = .ok t) : 0 < t.duration := by
  cases hduration : isDelay duration with
  | true =>
      rw [new_of_isDelay hduration] at h
      cases h
      exact (isDelay_exact duration).1 hduration
  | false =>
      obtain ⟨f, hf⟩ := ensurePositive_of_not_isDelay hduration "duration"
      unfold Tween.new at h
      rw [hf] at h
      cases h

/-- Where the attributes of a tween are on the stages that there can be after lists of
steps. -/
structure KeepsBetween (t : Tween κ K) (After : List K → Stage K → Prop) : Prop where
  /-- After a step every attribute is between its start and its end. -/
  between (dts : List K) (s : Stage K) (h : After dts s) (hne : dts ≠ [])
    (hnonneg : ∀ dt ∈ dts, 0 ≤ dt) (a : Track K) (ha : a ∈ t.tracks) :
    ∃ v, s.attr? t.target a.name = some v ∧ AttrValue.Between a.start a.stop v
  /-- With a steady curve every attribute moves towards its end: where a step left it, or
  where it starts if it is there before the first one, all later steps leave it between
  that and the end. -/
  towards (hsteady : t.easing.isSteady = true) (past more : List K) (s s' : Stage K)
    (h : After past s) (h' : After (past ++ more) s') (hne : more ≠ [])
    (hnonneg : ∀ dt ∈ past ++ more, 0 ≤ dt) (a : Track K) (ha : a ∈ t.tracks)
    (hbefore : past = [] → s.attr? t.target a.name = some a.start) :
    ∃ v w, s.attr? t.target a.name = some v ∧ s'.attr? t.target a.name = some w
      ∧ AttrValue.Between v a.stop w

variable [IsStrictOrderedRing K]

theorem Tween.LeavesShares.keepsBetween {After : List K → Stage K → Prop}
    (hshares : t.LeavesShares After) (hcurve : t.easing.isElastic = false)
    (hduration : 0 < t.duration) (hshape : ∀ a ∈ t.tracks, a.start.sameShape a.stop = true) :
    KeepsBetween t After := by
  constructor
  case between =>
      intro dts s h hne hnonneg a ha
      obtain ⟨hleast, hmost⟩ := shareAt_mem hcurve hduration (List.sum_nonneg hnonneg)
      refine ⟨_, hshares dts s h hne hnonneg a ha, ?_⟩
      exact (AttrValue.share_zero (hshape a ha)).between (share_valueAt (hshape a ha) _) hleast
        hmost
  case towards =>
      intro hsteady past more s s' h h' hne hnonneg a ha hbefore
      have hlast := hshares _ s' h' (List.append_ne_nil_of_right_ne_nil past hne) hnonneg a ha
      have hshare := share_valueAt (hshape a ha) (past ++ more).sum (t := t)
      obtain ⟨hleast, hmost⟩ := shareAt_mem hcurve hduration (List.sum_nonneg hnonneg)
      rw [List.forall_mem_append] at hnonneg
      by_cases hpast : past = []
      · refine ⟨_, _, hbefore hpast, hlast, ?_⟩
        exact (AttrValue.share_zero (hshape a ha)).between hshare hleast hmost
      · refine ⟨_, _, hshares past s h hpast hnonneg.1 a ha, hlast, ?_⟩
        refine (share_valueAt (hshape a ha) past.sum).between hshare ?_ hmost
        refine shareAt_le hsteady hcurve hduration (List.sum_nonneg hnonneg.1) ?_
        rw [List.sum_append]
        exact le_add_of_nonneg_right (List.sum_nonneg hnonneg.2)

/-- The tween keeps between its ends from the stage on, whoever steps it. -/
structure StaysBetween (t : Tween κ K) (s : Stage K) : Prop where
  /-- Stepped on its own. -/
  alone : KeepsBetween t fun dts s' => ∃ u, Tween.Updates (t, s) dts (u, s')
  /-- Stepped by a queue that it was put in, of which no other task writes its
  attributes. -/
  queued (q r : TweenQueue κ K) (id : TweenId) (hq : q.Numbered)
    (hqueued : q.animate t = (some id, r))
    (halone : ∀ p ∈ q.live, ∀ name ∈ t.names, ¬p.Writes t.target name) :
    KeepsBetween t fun dts s' => ∃ q', Advances t id (r, s) dts (q', s')

/-- On a curve that does not swing, no attribute leaves the way from its start to its end,
whoever steps the tween and however small or long the steps are. -/
theorem tween_stays_between_its_ends {made s : Stage K} {target : PuppetId} {duration : K}
    {requests : List (String × AttrValue K)} {t : Tween κ K}
    (hnew : Tween.new made target duration requests = .ok t) {easing : Easing}
    (hcurve : easing.isElastic = false) (onComplete : Option κ) (hrecord : s.HasRecord target)
    (hpresent : ∀ name ∈ t.names, (s.attr? target name).isSome) :
    StaysBetween { t with easing, onComplete } s := by
  have hduration : 0 < t.duration := Tween.duration_pos_of_new hnew
  obtain ⟨rfl, helapsed, hsound⟩ := Tween.new_parts hnew
  have hbegun : t.elapsed = 0 := helapsed.trans Scalar.zero_exact
  constructor
  case alone =>
      have hshares : Tween.LeavesShares { t with easing, onComplete } fun dts s' =>
          ∃ u, Tween.Updates ({ t with easing, onComplete }, s) dts (u, s') := by
        rintro dts s' ⟨u, hupdates⟩ hne - a ha
        have hstart : Tween.UpdatedTo { t with easing, onComplete } []
            ({ t with easing, onComplete }, s) := by
          refine ⟨?_, hrecord, hpresent, fun hnil => absurd rfl hnil⟩
          rw [List.sum_nil, ← hbegun]
          rfl
        exact (hupdates.updatedTo hstart hsound.nodup).shares hne a ha
      exact hshares.keepsBetween hcurve hduration hsound.shape
  case queued =>
      intro q r id hq hqueued halone
      have hshares : Tween.LeavesShares { t with easing, onComplete } fun dts s' =>
          ∃ q', Advances { t with easing, onComplete } id (r, s) dts (q', s') := by
        rintro dts s' ⟨q', hadvances⟩ hne hnonneg a ha
        have hrunning := running_of_animate (t := { t with easing, onComplete }) hbegun hrecord
          hsound.nodup hpresent hq hqueued halone
        exact (hadvances.advancedTo hrunning hnonneg).shares hne a ha
      exact hshares.keepsBetween hcurve hduration hsound.shape

end Result

/-- A stage of real numbers with a record of a pair. -/
private def recordOfPair : Stage ℝ := { puppets := #[.record [("pos", .array [0, 1])]] }

/-- The pair on its way to (1, 0), which takes a second. -/
private noncomputable def pairOnItsWay (easing : Easing) : Tween ℕ ℝ :=
  ⟨⟨0⟩, [⟨"pos", .array [0, 1], .array [1, 0]⟩], 0.0, 1, easing, none⟩

/-- One number goes up and the other one down, and after half a second and another quarter
of it a bounce has taken neither past its end. In a queue it does not either. -/
theorem a_pair_stays_between :
    Tween.new recordOfPair ⟨0⟩ 1 [("pos", .array [1, 0])] = .ok (pairOnItsWay .linear)
      ∧ (∃ t s v, Tween.Updates (pairOnItsWay .bounceEnd, recordOfPair) [1 / 2, 1 / 4] (t, s)
          ∧ s.attr? ⟨0⟩ "pos" = some v
          ∧ AttrValue.Between (.array [0, 1]) (.array [1, 0]) v)
      ∧ ∃ r, (empty : TweenQueue ℕ ℝ).animate (pairOnItsWay .bounceEnd) = (some ⟨0⟩, r)
          ∧ KeepsBetween (pairOnItsWay .bounceEnd) fun dts s =>
            ∃ q, Advances (pairOnItsWay .bounceEnd) ⟨0⟩ (r, recordOfPair) dts (q, s) := by
  have hone : isDelay (1 : ℝ) = true := (isDelay_exact 1).2 one_pos
  have hnew : Tween.new recordOfPair ⟨0⟩ 1 [("pos", .array [1, 0])]
      = .ok (pairOnItsWay .linear) := by
    unfold Tween.new
    rw [ensurePositive_of_isDelay hone]
    rfl
  have hpresent : ∀ name ∈ (pairOnItsWay .linear).names,
      (recordOfPair.attr? ⟨0⟩ name).isSome := by
    intro name hname
    rw [List.mem_singleton.1 hname]
    rfl
  have hstays : StaysBetween (pairOnItsWay .bounceEnd) recordOfPair :=
    tween_stays_between_its_ends hnew rfl none ⟨_, rfl⟩ hpresent
  have hupdates : Tween.Updates (pairOnItsWay .bounceEnd, recordOfPair) [1 / 2, 1 / 4] _ :=
    .update (.update .start (1 / 2)) (1 / 4)
  obtain ⟨v, hv, hbetween⟩ := hstays.alone.between _ _ ⟨_, hupdates⟩ (by simp) (by norm_num) _
    List.mem_cons_self
  have hlive : (pairOnItsWay .bounceEnd).isDone = false := by
    unfold pairOnItsWay Tween.isDone
    norm_num
  have hqueued : (empty : TweenQueue ℕ ℝ).animate (pairOnItsWay .bounceEnd)
      = (some ⟨0⟩, (empty.push (pairOnItsWay .bounceEnd)).2) := by
    unfold animate
    rw [hlive]
    rfl
  exact ⟨hnew, ⟨_, _, v, hupdates, hv, hbetween⟩, _, hqueued,
    hstays.queued _ _ _ numbered_empty hqueued fun p hp => absurd hp List.not_mem_nil⟩

end Stagecraft
