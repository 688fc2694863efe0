/-
What is taken out of the clock, and what stays out.

A callback may wait in the clock several times over, for calls that happen
once and for calls that recur. Whoever unschedules it takes out all of its
entries, and all others stay as they stood (`Clock.Without`).

That they stay out is said of whole runs, since handlers unschedule and
schedule while a frame goes on, and a pass arms the entries that recur
again. But it does so before it enters the first handler. What a handler
takes out is taken out of the rebuilt queue, and from there on no callback
comes into the clock but by being scheduled (`World.callbacks_origin`).

# One entry at most

A happening adds to the entries of a callback only what it schedules, entry
for entry (`Happening.callbacks_apply_sublist`). So a callback that is always
scheduled in place of its entries has one of them at most, at every moment.
-/
import Stagecraft.Proofs.Game.Queues

namespace Stagecraft

variable {κ σ α : Type} [DecidableEq κ]

-- ========================================================== the entries

namespace Clock

/-- The second clock is the first one without the entries of the callback: what is left
stands as it stood, and nothing else is missing. -/
structure Without (q : Clock κ α) (c : κ) (r : Clock κ α) : Prop where
  gone : r.count c = 0
  sublist : r.queue.Sublist q.queue
  length : q.count c + r.queue.length = q.queue.length

theorem without_unschedule (q : Clock κ α) (c : κ) : q.Without c (q.unschedule c) := by
  constructor
  case gone =>
      refine List.countP_eq_zero.2 fun e he => ?_
      have hother := (List.mem_filter.1 he).2
      simpa using hother
  case sublist => exact List.filter_sublist
  case length =>
      unfold count
      rw [List.countP_eq_length_filter]
      exact (List.length_eq_length_filter_add _).symm

/-- There is one such clock. -/
theorem Without.eq_unschedule {q r : Clock κ α} {c : κ} (h : q.Without c r) :
    r = q.unschedule c := by
  have hnone : ∀ e ∈ r.queue, (e.callback != c) = true := by
    intro e he
    have hother := List.countP_eq_zero.1 h.gone e he
    simpa using hother
  have hsub : r.queue.Sublist (q.unschedule c).queue := by
    have hfilter := h.sublist.filter fun e => e.callback != c
    rwa [List.filter_eq_self.2 hnone] at hfilter
  have hlength := h.length
  rw [← (q.without_unschedule c).length] at hlength
  exact congrArg Clock.mk (hsub.eq_of_length (Nat.add_left_cancel hlength))

theorem count_eq (q : Clock κ α) (c : κ) : q.count c = q.callbacks.count c := by
  unfold count callbacks List.count
  rw [List.countP_map]
  rfl

theorem mem_callbacks_iff {q : Clock κ α} {c : κ} : c ∈ q.callbacks ↔ 0 < q.count c := by
  rw [count_eq, List.count_pos_iff]

section Scheduling

variable [Scalar α]

/-- A unique call is refused, or stands behind all entries of other callbacks. -/
theorem scheduleUnique_cases (q : Clock κ α) (c : κ) (delay : α) :
    (isDelay delay = false ∧ ∃ f, q.scheduleUnique c delay = .error f)
      ∨ isDelay delay = true
        ∧ q.scheduleUnique c delay = .ok ⟨(q.unschedule c).queue ++ [⟨c, delay, 0.0⟩]⟩ := by
  unfold scheduleUnique
  cases hdelay : isDelay delay with
  | true =>
      rw [ensurePositive_of_isDelay hdelay]
      exact .inr ⟨rfl, rfl⟩
  | false =>
      obtain ⟨f, hf⟩ := ensurePositive_of_not_isDelay hdelay "delay"
      rw [hf]
      exact .inl ⟨rfl, f, rfl⟩

variable {q r : Clock κ α} {c : κ} {delay : α}

theorem queue_scheduleUnique (h : q.scheduleUnique c delay = .ok r) :
    r.queue = (q.unschedule c).queue ++ [⟨c, delay, 0.0⟩] := by
  rcases q.scheduleUnique_cases c delay with ⟨-, f, hf⟩ | ⟨-, hr⟩
  · rw [hf] at h
    cases h
  · rw [hr] at h
    cases h
    rfl

theorem count_scheduleUnique (h : q.scheduleUnique c delay = .ok r) : r.count c = 1 := by
  have hothers : (q.unschedule c).queue.countP (fun e => e.callback == c) = 0 :=
    (q.without_unschedule c).gone
  unfold count
  rw [queue_scheduleUnique h, List.countP_append, hothers]
  simp

end Scheduling

end Clock

variable [Elementary α]

-- ============================================================= the edits

namespace QueueCall

theorem editClock_unschedule (q : Clock κ α) (c : κ) :
    (unschedule c : QueueCall κ α).editClock q = q.unschedule c := by
  simp [editClock, drops, entry?, Clock.unschedule, bne]

theorem editClock_scheduleUnique (q : Clock κ α) (c : κ) (delay : α) :
    (scheduleUnique c delay).editClock q = (q.scheduleUnique c delay).toOption.getD q := by
  rcases q.scheduleUnique_cases c delay with ⟨hdelay, f, hf⟩ | ⟨hdelay, hr⟩
  · rw [hf]
    simp [editClock, drops, entry?, hdelay, Except.toOption]
  · rw [hr]
    simp [editClock, drops, entry?, hdelay, Except.toOption, Clock.unschedule, bne]

theorem callbacks_editClock_sublist (q : Clock κ α) (call : QueueCall κ α) :
    (call.editClock q).callbacks.Sublist
      (q.callbacks ++ (call.entry?.map ScheduledCall.callback).toList) := by
  unfold Clock.callbacks editClock
  rw [List.map_append, ← Option.toList_map]
  exact (List.filter_sublist.map _).append_right _

end QueueCall

namespace Clock

omit [DecidableEq κ] in
/-- What is due waits. -/
theorem due_sublist (q : Clock κ α) (dt : α) : (q.due dt).Sublist q.callbacks := by
  rw [due_eq]
  exact List.filter_sublist.map _

/-- What an operation keeps of a queue, it keeps in place. -/
theorem callbacks_run_sublist (q : Clock κ α) (op : Op κ α) :
    (op.run q).callbacks.Sublist (q.callbacks ++ op.added.map ScheduledCall.callback) := by
  have hkept (queue : List (ScheduledCall κ α)) :
      ((queue.filterMap op.keep?).map ScheduledCall.callback).Sublist
        (queue.map ScheduledCall.callback) := by
    induction queue with
    | nil => exact List.Sublist.refl _
    | cons e rest ih =>
        cases hleft : op.keep? e with
        | none =>
            rw [List.filterMap_cons_none hleft]
            exact ih.cons _
        | some left =>
            rw [List.filterMap_cons_some hleft, List.map_cons, Op.callback_of_keep? hleft]
            exact ih.cons_cons _
  unfold callbacks
  rw [Op.run_eq, List.map_append]
  exact (hkept q.queue).append_right _

end Clock

variable [Journal (Notice κ α) σ]

namespace Edit

/-- An edit adds to the callbacks that wait what it schedules, and nothing else. -/
theorem callbacks_apply_sublist (w : World κ σ α) (e : Edit κ σ α) :
    (e.apply w).clockOrNew.callbacks.Sublist (w.clockOrNew.callbacks ++ e.scheduled) := by
  have hsame : w.clockOrNew.callbacks.Sublist (w.clockOrNew.callbacks ++ e.scheduled) :=
    List.sublist_append_left _ _
  cases e with
  | call call =>
      show (call.apply w).clockOrNew.callbacks.Sublist _
      rw [QueueCall.clockOrNew_apply]
      exact QueueCall.callbacks_editClock_sublist w.clockOrNew call
  | clock op =>
      obtain ⟨time, config, clock, tweens, gallery, stage, host⟩ := w
      cases clock with
      | none => exact hsame
      | some q => exact Clock.callbacks_run_sublist q op
  | clearClock =>
      obtain ⟨time, config, clock, tweens, gallery, stage, host⟩ := w
      cases clock <;> exact List.nil_sublist _
  | changeClock present => cases present <;> exact List.nil_sublist _
  | step id dt | moveTweens dt =>
      obtain ⟨time, config, clock, tweens, gallery, stage, host⟩ := w
      cases tweens <;> exact hsame
  | _ => exact hsame

/-- Whether an edit takes out the entries of a callback. -/
def Unschedules (e : Edit κ σ α) (c : κ) : Prop :=
  e = .call (.unschedule c) ∨ e = .clock (.unschedule c)

/-- Whether an edit schedules a callback in place of its entries, or tries to. -/
def SchedulesUniquely (e : Edit κ σ α) (c : κ) : Prop :=
  ∃ delay, e = .call (.scheduleUnique c delay) ∨ e = .clock (.scheduleUnique c delay)

variable {w : World κ σ α} {e : Edit κ σ α} {c : κ}

theorem Unschedules.clockOrNew (h : e.Unschedules c) (w : World κ σ α) :
    (e.apply w).clockOrNew = w.clockOrNew.unschedule c := by
  rcases h with rfl | rfl
  · exact (QueueCall.clockOrNew_apply w _).trans (QueueCall.editClock_unschedule _ c)
  · obtain ⟨time, config, clock, tweens, gallery, stage, host⟩ := w
    cases clock <;> rfl

/-- A callback that has one entry at most has so after it is scheduled in place of it. -/
theorem SchedulesUniquely.count_le (h : e.SchedulesUniquely c) (hw : w.clockOrNew.count c ≤ 1) :
    (e.apply w).clockOrNew.count c ≤ 1 := by
  have hunique {q : Clock κ α} (hq : q.count c ≤ 1) (delay : α) :
      ((q.scheduleUnique c delay).toOption.getD q).count c ≤ 1 := by
    cases hr : q.scheduleUnique c delay with
    | error f => exact hq
    | ok r => exact Nat.le_of_eq (Clock.count_scheduleUnique hr)
  obtain ⟨delay, rfl | rfl⟩ := h
  · show ((QueueCall.scheduleUnique c delay).apply w).clockOrNew.count c ≤ 1
    rw [QueueCall.clockOrNew_apply, QueueCall.editClock_scheduleUnique]
    exact hunique hw delay
  · obtain ⟨time, config, clock, tweens, gallery, stage, host⟩ := w
    cases clock with
    | none => exact hw
    | some q => exact hunique hw delay

end Edit

-- ========================================================== the happenings

namespace Happening

variable {w : World κ σ α} {h : Happening κ σ α} {c : κ}

theorem callbacks_apply_sublist (w : World κ σ α) (h : Happening κ σ α) :
    (h.apply w).clockOrNew.callbacks.Sublist (w.clockOrNew.callbacks ++ h.scheduled) := by
  have hsame : w.clockOrNew.callbacks.Sublist (w.clockOrNew.callbacks ++ h.scheduled) :=
    List.sublist_append_left _ _
  cases h with
  | frame dt =>
      obtain ⟨-, hclock, -⟩ := (w.updateTime dt).applyConfig_parts
      obtain ⟨-, hclock', -⟩ := w.updateTime_parts dt
      have hkept : (apply w (.frame dt)).clockOrNew = w.clockOrNew :=
        congrArg (fun q => q.getD Clock.empty) (hclock.trans hclock')
      rw [hkept]
      exact hsame
  | count =>
      obtain ⟨time, config, clock, tweens, gallery, stage, host⟩ := w
      cases clock with
      | none => exact hsame
      | some q => exact q.callbacks_run_sublist (.advance time.delta)
  | edit e => exact e.callbacks_apply_sublist w
  | reset => exact List.nil_sublist _
  | move | enter o | tell n => exact hsame

/-- A callback that is not scheduled gets no more entries. -/
theorem count_apply_le (w : World κ σ α) (hnot : c ∉ h.scheduled) :
    (h.apply w).clockOrNew.count c ≤ w.clockOrNew.count c := by
  have hcount := (h.callbacks_apply_sublist w).count_le c
  rw [List.count_append, List.count_eq_zero.2 hnot] at hcount
  rw [Clock.count_eq, Clock.count_eq]
  exact hcount

end Happening

/-- What the pass over the clock calls is what was due. -/
theorem Script.called_clockPass (script : Script κ σ α) (w : World κ σ α) :
    called (script.clockPass w) = w.clockOrNew.due w.time.delta := by
  unfold called
  rw [entered_clockPass]
  unfold World.dueCalls
  rw [List.filterMap_map]
  exact List.filterMap_some

namespace World

variable {w : World κ σ α} {c : κ} {hs : List (Happening κ σ α)}

/-- A callback that does not wait and is not scheduled is not called by the next pass over
the clock. -/
theorem not_mem_called_of_not_scheduled (hw : c ∉ w.clockOrNew.callbacks)
    (hnot : ∀ h ∈ hs, c ∉ h.scheduled) {script : Script κ σ α} {g : Game κ σ α}
    (hg : g.world = w.after hs) (dt : α) : c ∉ called (script.clockPass (g.begun dt)) := by
  have hclock : (g.begun dt).clockOrNew = (w.after hs).clockOrNew := by
    obtain ⟨-, hbegun, -⟩ := g.begun_parts dt
    unfold clockOrNew
    rw [hbegun, hg]
  rw [Script.called_clockPass, hclock]
  intro hdue
  rcases callbacks_origin ((Clock.due_sublist _ _).subset hdue) with hold | ⟨h, hh, hmem⟩
  · exact hw hold
  · exact hnot h hh hmem

/-- A world schedules a unique call as its clock does. -/
theorem scheduleUnique_parts (w : World κ σ α) (c : κ) (delay : α) :
    (∀ f, w.clockOrNew.scheduleUnique c delay = .error f →
        w.scheduleUnique c delay = (.error f, { w with clock := some w.clockOrNew }))
      ∧ ∀ r, w.clockOrNew.scheduleUnique c delay = .ok r →
        (w.scheduleUnique c delay).1 = .ok () ∧ (w.scheduleUnique c delay).2.clock = some r := by
  unfold scheduleUnique editClock
  dsimp only
  constructor
  · intro f hf
    rw [hf]
  · intro r hr
    rw [hr]
    refine ⟨rfl, ?_⟩
    dsimp only
    rw [foldl_note]

end World

/-- From where a step is cut, what happens leads to the end of the run. -/
theorem Game.world_run_of_cut (script : Script κ σ α) {g : Game κ σ α} {before : List (Step κ σ α)}
    {s : Step κ σ α} {pre post : List (Happening κ σ α)} {h : Happening κ σ α}
    (hcut : (g.run script before).happenings script s = pre ++ h :: post)
    (between : List (Step κ σ α)) :
    (g.run script (before ++ [s] ++ between)).world
      = (h.apply ((g.run script before).world.after pre)).after
          (post ++ (g.run script (before ++ [s])).story script between) := by
  have hstep : (g.run script (before ++ [s])).world
      = (h.apply ((g.run script before).world.after pre)).after post := by
    rw [run_append]
    refine ((g.run script before).world_step script s).trans ?_
    rw [hcut, World.after_append]
    rfl
  rw [run_append, world_run, hstep, World.after_append]

-- ============================================================= the result

/-- What is promised of taking callbacks out of the clock, with handlers that do what the
script says. -/
structure UnscheduledStayOut (script : Script κ σ α) : Prop where
  /-- Unscheduling takes out all entries of a callback, and no other. -/
  taken (q : Clock κ α) (c : κ) : q.Without c (q.unschedule c)
  /-- Who asks a world to do so is answered how many there were. -/
  answered (w : World κ σ α) (c : κ) : (w.unschedule c).1 = w.clockOrNew.count c
    ∧ (w.unschedule c).2.clock = some (w.clockOrNew.unschedule c)
  /-- Whether it is taken out in a frame or between two frames, a callback is not called by
  the clock in any later frame if it is not scheduled before. -/
  out (g : Game κ σ α) (before : List (Game.Step κ σ α)) (s : Game.Step κ σ α)
    (pre post : List (Happening κ σ α)) (e : Edit κ σ α)
    (hcut : (g.run script before).happenings script s = pre ++ .edit e :: post) (c : κ)
    (he : e.Unschedules c) (between : List (Game.Step κ σ α))
    (hnot : ∀ h ∈ post ++ (g.run script (before ++ [s])).story script between, c ∉ h.scheduled)
    (dt : α) :
    c ∉ called (script.clockPass ((g.run script (before ++ [s] ++ between)).begun dt))
  /-- A unique call that is accepted stands last, once and with its full delay, behind the
  entries of all other callbacks. -/
  replaced (q r : Clock κ α) (c : κ) (delay : α) (h : q.scheduleUnique c delay = .ok r) :
    ∃ others, q.Without c others ∧ r.queue = others.queue ++ [⟨c, delay, 0.0⟩] ∧ r.count c = 1
  /-- A callback that is only scheduled so has one entry at most, at any moment of a run. -/
  single (g : Game κ σ α) (steps : List (Game.Step κ σ α)) (c : κ)
    (hstart : g.world.clockOrNew.count c ≤ 1)
    (honly : ∀ h ∈ g.story script steps, c ∈ h.scheduled →
      ∃ e, h = .edit e ∧ e.SchedulesUniquely c)
    (pre post : List (Happening κ σ α)) (hcut : g.story script steps = pre ++ post) :
    (g.world.after pre).clockOrNew.count c ≤ 1
  /-- A world that is asked for a unique call has the clock that its clock makes of it, ... -/
  accepted (w : World κ σ α) (c : κ) (delay : α) (h : (w.scheduleUnique c delay).1 = .ok ()) :
    ∃ r, w.clockOrNew.scheduleUnique c delay = .ok r ∧ (w.scheduleUnique c delay).2.clock = some r
  /-- ... and if it is refused, nothing changes, but that a world without a clock has an
  empty one then. -/
  refused (w : World κ σ α) (c : κ) (delay : α) (f : Fault α)
    (h : (w.scheduleUnique c delay).1 = .error f) :
    (w.scheduleUnique c delay).2 = { w with clock := some w.clockOrNew }
      ∧ (w.clock.isSome → (w.scheduleUnique c delay).2 = w)

/-- A callback that was taken out of the clock is not called from it until it is scheduled again,
and one that is only scheduled uniquely waits once at most. -/
theorem unscheduled_calls_stay_out (script : Script κ σ α) : UnscheduledStayOut script := by
  constructor
  case taken => exact Clock.without_unschedule
  case answered =>
      intro w c
      refine ⟨rfl, ?_⟩
      unfold World.unschedule
      dsimp only
      rw [World.foldl_note]
  case out =>
      intro g before s pre post e hcut c he between hnot dt
      have hgone : c ∉ (e.apply ((g.run script before).world.after pre)).clockOrNew.callbacks := by
        rw [he.clockOrNew, Clock.mem_callbacks_iff, (Clock.without_unschedule _ c).gone]
        exact Nat.lt_irrefl 0
      have hworld := Game.world_run_of_cut script hcut between
      exact World.not_mem_called_of_not_scheduled hgone hnot hworld dt
  case replaced =>
      intro q r c delay h
      exact ⟨q.unschedule c, q.without_unschedule c, Clock.queue_scheduleUnique h,
        Clock.count_scheduleUnique h⟩
  case single =>
      intro g steps c hstart honly pre post hcut
      refine World.after_induct (P := fun v => v.clockOrNew.count c ≤ 1) hstart fun v h hh hv => ?_
      have hstory : h ∈ g.story script steps := hcut ▸ List.mem_append_left _ hh
      by_cases hscheduled : c ∈ h.scheduled
      · obtain ⟨e, rfl, he⟩ := honly h hstory hscheduled
        exact he.count_le hv
      · exact Nat.le_trans (Happening.count_apply_le v hscheduled) hv
  case accepted =>
      intro w c delay h
      obtain ⟨hrefused, haccepted⟩ := w.scheduleUnique_parts c delay
      cases hr : w.clockOrNew.scheduleUnique c delay with
      | error f =>
          rw [hrefused f hr] at h
          cases h
      | ok r => exact ⟨r, rfl, (haccepted r hr).2⟩
  case refused =>
      intro w c delay f h
      obtain ⟨hrefused, haccepted⟩ := w.scheduleUnique_parts c delay
      cases hr : w.clockOrNew.scheduleUnique c delay with
      | error f' =>
          rw [hrefused f' hr]
          refine ⟨rfl, fun hclock => ?_⟩
          obtain ⟨time, config, clock, tweens, gallery, stage, host⟩ := w
          obtain ⟨q, rfl⟩ := Option.isSome_iff_exists.1 hclock
          rfl
      | ok r =>
          rw [(haccepted r hr).1] at h
          cases h

end Stagecraft
