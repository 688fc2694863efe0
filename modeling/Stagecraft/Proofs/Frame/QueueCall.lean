/-
The calls that a callback may make on the world, and what each does.

There are seven of them: four on the clock, three on the tweens. Each is
described once (`apply_eq`): a call replaces the clock, the tweens and the
host state, and leaves time, stage, configuration and images alone. The
clock that it leaves is an edit of the one that it finds, which drops the
entries of one callback at most and appends one entry at most
(`editClock`); the tweens are edited in the same way (`editTweens`). What
the host hears of it is a list of notices that does not depend on the
host (`notes`), so a host that remembers more than another changes
nothing about the call.

Nothing here looks at the order in which calls are made: this is the
step, and `Record.lean` has the runs.
-/
import Stagecraft.World
import Stagecraft.Proofs.Tweens.Numbering

namespace Stagecraft

variable {κ σ α : Type}

-- ============================================================ the delays

/-- Whether a scalar is a number, finite and above zero. -/
def isDelay [Scalar α] (x : α) : Bool :=
  Scalar.isNumber x && !decide (x ≤ 0.0) && Scalar.isFinite x

theorem ensurePositive_of_isDelay [Scalar α] {x : α} (h : isDelay x = true) (what : String) :
    ensurePositive what x = .ok x := by
  unfold isDelay at h
  simp only [Bool.and_eq_true, Bool.not_eq_true', decide_eq_false_iff_not] at h
  obtain ⟨⟨hnumber, hpos⟩, hfinite⟩ := h
  unfold ensurePositive
  rw [hnumber, hfinite]
  simp [hpos]

theorem ensurePositive_of_not_isDelay [Scalar α] {x : α} (h : isDelay x = false)
    (what : String) : ∃ f, ensurePositive what x = .error f := by
  unfold ensurePositive
  cases hnumber : Scalar.isNumber x with
  | false => exact ⟨_, rfl⟩
  | true =>
      refine ⟨.notPositive what x, ?_⟩
      unfold isDelay at h
      rw [hnumber, Bool.true_and, Bool.and_eq_false_iff] at h
      have hbad : x ≤ 0.0 ∨ Scalar.isFinite x = false := by simpa using h
      rw [if_neg (by simp), if_pos hbad]

/-- With an accepted duration a tween can be made. -/
theorem Tween.new_of_isDelay [Elementary α] {duration : α} (h : isDelay duration = true)
    (s : Stage α) (target : PuppetId) (requests : List (String × AttrValue α)) :
    Tween.new s target duration requests = .ok
      (⟨target, trackAll (s.attr? target) requests, 0.0, duration, .linear, none⟩
        : Tween κ α) := by
  unfold Tween.new
  rw [ensurePositive_of_isDelay h]
  rfl

-- =========================================================== the notices

section Notices

variable [Journal (Notice κ α) σ]

/-- The host after a list of notices. -/
def tell (ns : List (Notice κ α)) (host : σ) : σ := ns.foldl (fun host n => Journal.note n host) host

/-- Notices change the host and nothing else. -/
theorem World.foldl_note (ns : List (Notice κ α)) (w : World κ σ α) :
    ns.foldl World.note w = { w with host := tell ns w.host } := by
  induction ns generalizing w with
  | nil => rfl
  | cons n rest ih =>
      rw [List.foldl_cons, ih]
      rfl

end Notices

-- ============================================================= the calls

/-- A call on one of the queues of a world. -/
inductive QueueCall (κ α : Type) where
  | schedule (c : κ) (delay : α)
  | scheduleUnique (c : κ) (delay : α)
  | scheduleInterval (c : κ) (interval : α)
  | unschedule (c : κ)
  | animate (target : PuppetId) (duration : α) (requests : List (String × AttrValue α))
      (easing : Option String) (onComplete : Option κ)
  | animateTween (t : Tween κ α)
  | cancelTween (id : TweenId)

namespace QueueCall

variable [Elementary α]

/-- The world after a call. -/
def apply [DecidableEq κ] [Journal (Notice κ α) σ] (w : World κ σ α) :
    QueueCall κ α → World κ σ α
  | schedule c delay => (w.schedule c delay).2
  | scheduleUnique c delay => (w.scheduleUnique c delay).2
  | scheduleInterval c interval => (w.scheduleInterval c interval).2
  | unschedule c => (w.unschedule c).2
  | animate target duration requests easing onComplete =>
    (w.animate target duration requests easing onComplete).2
  | animateTween t => (w.animateTween t).2
  | cancelTween id => (w.cancelTween id).2

-- =============================================================== the clock

/-- The entry that a call puts at the end of the clock, with its full delay. -/
def entry? : QueueCall κ α → Option (ScheduledCall κ α)
  | schedule c delay | scheduleUnique c delay =>
    if isDelay delay then some ⟨c, delay, 0.0⟩ else none
  | scheduleInterval c interval => if isDelay interval then some ⟨c, interval, interval⟩ else none
  | _ => none

/-- Whether a call takes the entries of a callback out of the clock. A refused
replacement takes none. -/
def drops [DecidableEq κ] : QueueCall κ α → κ → Bool
  | scheduleUnique c delay, k => isDelay delay && k == c
  | unschedule c, k => k == c
  | _, _ => false

/-- The clock after a call. -/
def editClock [DecidableEq κ] (call : QueueCall κ α) (q : Clock κ α) : Clock κ α :=
  ⟨(q.queue.filter fun e => !call.drops e.callback) ++ call.entry?.toList⟩

/-- Whether a call is made on the clock. -/
def onClock : QueueCall κ α → Bool
  | schedule _ _ | scheduleUnique _ _ | scheduleInterval _ _ | unschedule _ => true
  | _ => false

-- ============================================================== the tweens

/-- The tween that a call gives to the queue. -/
def offered? (w : World κ σ α) : QueueCall κ α → Option (Tween κ α)
  | animate target duration requests easing onComplete =>
    (w.newTween target duration requests easing onComplete).toOption
  | animateTween t => some t
  | _ => none

/-- The tween that a call puts at the end of the queue. One that is done is not
taken. -/
def tween? (w : World κ σ α) (call : QueueCall κ α) : Option (Tween κ α) :=
  (call.offered? w).filter fun t => !t.isDone

/-- The number that a call takes out of the queue, if it is there. -/
def cancels? : QueueCall κ α → Option TweenId
  | cancelTween id => some id
  | _ => none

/-- The tween queue after a call on a world with this queue. -/
def editTweens (call : QueueCall κ α) (w : World κ σ α) (q : TweenQueue κ α) : TweenQueue κ α :=
  match call.cancels?, call.tween? w with
  | some id, _ => q.cancel id
  | none, some t => (q.push t).2
  | none, none => q

/-- Whether a call leaves a world with a tween queue in any case: all calls on
the tweens do but a refused request. -/
def onTweens (w : World κ σ α) (call : QueueCall κ α) : Bool :=
  (call.offered? w).isSome || call.cancels?.isSome

-- ============================================================= the notices

/-- What is told of a tween that is given to the queue. -/
def tweenNotes (w : World κ σ α) (t : Tween κ α) : List (Notice κ α) :=
  if t.isDone then [.tweenEmpty] else [.tweenQueued ⟨w.tweensOrNew.next⟩ t.duration]

/-- What is told of a call. -/
def notes [DecidableEq κ] (w : World κ σ α) : QueueCall κ α → List (Notice κ α)
  | schedule c delay => if isDelay delay then [.callScheduled c delay] else []
  | scheduleUnique c delay =>
    if isDelay delay then w.unscheduleNotes c ++ [.callScheduled c delay] else []
  | scheduleInterval c interval => if isDelay interval then [.callRepeated c interval] else []
  | unschedule c => w.unscheduleNotes c
  | call =>
    match call.offered? w with
    | some t => tweenNotes w t
    | none => []


-- ======================================================= what a call does

/-- A call that is not on the clock edits nothing there. -/
private theorem editClock_of_not_onClock [DecidableEq κ] {call : QueueCall κ α} (h : call.onClock = false)
    (q : Clock κ α) : call.editClock q = q := by
  cases call with
  | schedule c delay => cases h
  | scheduleUnique c delay => cases h
  | scheduleInterval c interval => cases h
  | unschedule c => cases h
  | _ => simp [editClock, drops, entry?]

/-- A call that need not leave a tween queue edits nothing in it. -/
private theorem editTweens_of_not_onTweens {call : QueueCall κ α} {w : World κ σ α}
    (h : call.onTweens w = false) (q : TweenQueue κ α) : call.editTweens w q = q := by
  unfold onTweens at h
  rw [Bool.or_eq_false_iff, Option.isSome_eq_false_iff, Option.isSome_eq_false_iff,
    Option.isNone_iff_eq_none, Option.isNone_iff_eq_none] at h
  obtain ⟨hoffered, hcancels⟩ := h
  unfold editTweens tween?
  rw [hoffered, hcancels]
  rfl

/-- A call that gives a tween to the queue pushes it unless it is done. -/
private theorem editTweens_of_offered {call : QueueCall κ α} {w : World κ σ α} {t : Tween κ α}
    (h : call.offered? w = some t) (q : TweenQueue κ α) :
    call.editTweens w q = if t.isDone then q else (q.push t).2 := by
  have hcancels : call.cancels? = none := by
    cases call with
    | cancelTween id => cases h
    | _ => rfl
  unfold editTweens tween?
  rw [hcancels, h]
  cases hdone : t.isDone <;> simp [Option.filter, hdone]


section Journal

variable [Journal (Notice κ α) σ]

/-- A call on the clock that takes a delay: a delay that is refused changes
nothing, but leaves the world with a clock. -/
private theorem snd_editClock (w : World κ σ α) {edit : Clock κ α → Except (Fault α) (Clock κ α)}
    (ns : List (Notice κ α)) {what : String} {delay : α} {f : α → Clock κ α}
    (hedit : edit w.clockOrNew = (ensurePositive what delay).map f) :
    (w.editClock edit ns).2
      = { w with
          clock := some (if isDelay delay then f delay else w.clockOrNew)
          host := tell (if isDelay delay then ns else []) w.host } := by
  unfold World.editClock
  rw [hedit]
  cases hdelay : isDelay delay with
  | true =>
      rw [ensurePositive_of_isDelay hdelay]
      exact World.foldl_note ns _
  | false =>
      obtain ⟨f, hf⟩ := ensurePositive_of_not_isDelay hdelay what
      rw [hf]
      rfl

private theorem snd_animateTween (w : World κ σ α) (t : Tween κ α) :
    (w.animateTween t).2
      = { w with
          tweens := some (if t.isDone then w.tweensOrNew else (w.tweensOrNew.push t).2)
          host := tell (tweenNotes w t) w.host } := by
  unfold World.animateTween tweenNotes
  split <;> rfl

variable [DecidableEq κ]

/-- What a call does: it edits one of the queues, and the host hears of it. -/
theorem apply_eq (w : World κ σ α) (call : QueueCall κ α) :
    call.apply w
      = { w with
          clock := if call.onClock then some (call.editClock w.clockOrNew) else w.clock
          tweens := if call.onTweens w then some (call.editTweens w w.tweensOrNew) else w.tweens
          host := tell (call.notes w) w.host } := by
  cases call with
  | schedule c delay =>
      refine (snd_editClock w _ rfl).trans ?_
      cases hdelay : isDelay delay <;>
        simp [onClock, onTweens, offered?, cancels?, editClock, drops, entry?, notes, hdelay]
  | scheduleUnique c delay =>
      refine (snd_editClock w _ rfl).trans ?_
      cases hdelay : isDelay delay <;>
        simp [onClock, onTweens, offered?, cancels?, editClock, drops, entry?, notes, hdelay,
          Clock.unschedule, bne]
  | scheduleInterval c interval =>
      refine (snd_editClock w _ rfl).trans ?_
      cases hdelay : isDelay interval <;>
        simp [onClock, onTweens, offered?, cancels?, editClock, drops, entry?, notes, hdelay]
  | unschedule c =>
      refine (World.foldl_note _ _).trans ?_
      simp [onClock, onTweens, offered?, cancels?, editClock, drops, entry?, notes,
        Clock.unschedule, bne]
  | animate target duration requests easing onComplete =>
      cases hnew : w.newTween target duration requests easing onComplete with
      | error f =>
          simp [apply, World.animate, onClock, onTweens, offered?, cancels?, notes, tell, hnew,
            Except.toOption]
      | ok t =>
          have hoffered : (animate target duration requests easing onComplete).offered? w
              = some t := by
            simp [offered?, hnew, Except.toOption]
          have happly : (animate target duration requests easing onComplete).apply w
              = (w.animateTween t).2 := by
            simp [apply, World.animate, hnew]
          rw [happly, snd_animateTween, editTweens_of_offered hoffered]
          simp [onClock, onTweens, notes, hoffered]
  | animateTween t =>
      have hoffered : (animateTween t : QueueCall κ α).offered? w = some t := rfl
      refine (snd_animateTween w t).trans ?_
      rw [editTweens_of_offered hoffered]
      simp [onClock, onTweens, notes, hoffered]
  | cancelTween id => rfl

theorem clockOrNew_apply (w : World κ σ α) (call : QueueCall κ α) :
    (call.apply w).clockOrNew = call.editClock w.clockOrNew := by
  rw [apply_eq]
  cases h : call.onClock with
  | true => rfl
  | false =>
      rw [editClock_of_not_onClock h]
      rfl

theorem tweensOrNew_apply (w : World κ σ α) (call : QueueCall κ α) :
    (call.apply w).tweensOrNew = call.editTweens w w.tweensOrNew := by
  rw [apply_eq]
  cases h : call.onTweens w with
  | true => rfl
  | false =>
      rw [editTweens_of_not_onTweens h]
      rfl

theorem stage_apply (w : World κ σ α) (call : QueueCall κ α) :
    (call.apply w).stage = w.stage := by
  rw [apply_eq]

theorem time_apply (w : World κ σ α) (call : QueueCall κ α) :
    (call.apply w).time = w.time := by
  rw [apply_eq]

/-- No call takes a queue away from a world. -/
theorem isSome_apply (w : World κ σ α) (call : QueueCall κ α) :
    (w.clock.isSome → (call.apply w).clock.isSome)
      ∧ (w.tweens.isSome → (call.apply w).tweens.isSome) := by
  rw [apply_eq]
  constructor
  · intro h
    show Option.isSome (if call.onClock then _ else _) = true
    split
    · rfl
    · exact h
  · intro h
    show Option.isSome (if call.onTweens w then _ else _) = true
    split
    · rfl
    · exact h

end Journal

-- ======================================================== edits of a clock

section Clock

variable [DecidableEq κ]

/-- An entry stays in the clock unless a call drops its callback. -/
theorem mem_editClock {call : QueueCall κ α} {q : Clock κ α} {e : ScheduledCall κ α}
    (he : e ∈ q.queue) (hkeep : call.drops e.callback = false) : e ∈ (call.editClock q).queue := by
  refine List.mem_append_left _ (List.mem_filter.2 ⟨he, ?_⟩)
  rw [hkeep]
  rfl

/-- What a call schedules is in the clock after it. -/
theorem mem_editClock_entry {call : QueueCall κ α} {e : ScheduledCall κ α}
    (h : call.entry? = some e) (q : Clock κ α) : e ∈ (call.editClock q).queue := by
  refine List.mem_append_right _ ?_
  rw [h]
  exact List.mem_singleton.2 rfl

/-- What a call schedules is there after later calls that do not drop its
callback. -/
theorem mem_foldl_editClock {pre post : List (QueueCall κ α)} {call : QueueCall κ α}
    {e : ScheduledCall κ α} (h : call.entry? = some e)
    (hkeep : ∀ later ∈ post, later.drops e.callback = false) (q : Clock κ α) :
    e ∈ ((pre ++ call :: post).foldl (fun q call => call.editClock q) q).queue := by
  rw [List.foldl_append, List.foldl_cons]
  have he := mem_editClock_entry h (pre.foldl (fun q call => call.editClock q) q)
  generalize call.editClock _ = r at he ⊢
  induction post generalizing r with
  | nil => exact he
  | cons later rest ih =>
      rw [List.foldl_cons]
      refine ih (fun c hc => hkeep c (List.mem_cons_of_mem _ hc)) _ ?_
      exact mem_editClock he (hkeep later List.mem_cons_self)

end Clock

-- ================================================== edits of a tween queue

section Tweens

variable {call : QueueCall κ α} {w : World κ σ α} {q : TweenQueue κ α}

/-- Only tweens that are not done are queued. -/
theorem isDone_of_tween? {t : Tween κ α} (h : call.tween? w = some t) : t.isDone = false := by
  unfold tween? at h
  have hkept := (Option.filter_eq_some_iff.1 h).2
  simpa using hkept

/-- A call queues a tween or cancels a number, never both. -/
theorem cancels?_of_tween? {t : Tween κ α} (h : call.tween? w = some t) :
    call.cancels? = none := by
  cases call with
  | cancelTween id => cases h
  | _ => rfl

/-- An edit is a push, a cancel, or nothing. -/
theorem editTweens_cases (call : QueueCall κ α) (w : World κ σ α) (q : TweenQueue κ α) :
    (∃ t, call.tween? w = some t ∧ call.cancels? = none ∧ call.editTweens w q = (q.push t).2)
      ∨ (∃ id, call.tween? w = none ∧ call.cancels? = some id ∧ call.editTweens w q = q.cancel id)
      ∨ (call.tween? w = none ∧ call.cancels? = none ∧ call.editTweens w q = q) := by
  unfold editTweens
  cases htween : call.tween? w with
  | some t =>
      rw [cancels?_of_tween? htween]
      exact .inl ⟨t, rfl, rfl, rfl⟩
  | none =>
      cases call.cancels? with
      | some id => exact .inr (.inl ⟨id, rfl, rfl, rfl⟩)
      | none => exact .inr (.inr ⟨rfl, rfl, rfl⟩)

theorem numbered_editTweens (h : q.Numbered) : (call.editTweens w q).Numbered := by
  obtain ⟨t, -, -, hq⟩ | ⟨id, -, -, hq⟩ | ⟨-, -, hq⟩ := editTweens_cases call w q <;> rw [hq]
  · exact TweenQueue.numbered_push h t
  · exact TweenQueue.numbered_cancel h id
  · exact h

/-- The next number never goes down. -/
theorem next_le_editTweens : q.next ≤ (call.editTweens w q).next := by
  obtain ⟨t, -, -, hq⟩ | ⟨id, -, -, hq⟩ | ⟨-, -, hq⟩ := editTweens_cases call w q
  · rw [hq]
    exact Nat.le_succ q.next
  · exact Nat.le_of_eq (congrArg TweenQueue.next hq).symm
  · exact Nat.le_of_eq (congrArg TweenQueue.next hq).symm

/-- A tween that a call queues stands in the queue as it is, and takes the
number that was next. -/
theorem mem_editTweens_tween {t : Tween κ α} (h : call.tween? w = some t) :
    ((⟨q.next⟩, t) : Task κ α) ∈ (call.editTweens w q).tasks
      ∧ (call.editTweens w q).next = q.next + 1 := by
  have hq : call.editTweens w q = (q.push t).2 := by
    unfold editTweens
    rw [cancels?_of_tween? h, h]
  rw [hq]
  exact ⟨List.mem_append_right _ (List.mem_singleton.2 rfl), rfl⟩

/-- A task stays in the queue unless a call cancels its number. -/
theorem mem_editTweens {p : Task κ α} (hp : p ∈ q.tasks) (hkeep : call.cancels? ≠ some p.1) :
    p ∈ (call.editTweens w q).tasks := by
  obtain ⟨t, -, -, hq⟩ | ⟨id, -, hid, hq⟩ | ⟨-, -, hq⟩ := editTweens_cases call w q <;> rw [hq]
  · exact List.mem_append_left _ hp
  · refine (List.mem_eraseP_of_neg ?_).2 hp
    intro heq
    rw [beq_iff_eq] at heq
    exact hkeep (heq ▸ hid)
  · exact hp

/-- A task of the queue after a call was there before, or is the one that the
call queued. -/
theorem mem_of_mem_editTweens {p : Task κ α} (hp : p ∈ (call.editTweens w q).tasks) :
    p ∈ q.tasks ∨ ∃ t, call.tween? w = some t ∧ p = (⟨q.next⟩, t) := by
  obtain ⟨t, ht, -, hq⟩ | ⟨id, -, -, hq⟩ | ⟨-, -, hq⟩ := editTweens_cases call w q <;>
    rw [hq] at hp
  · rcases List.mem_append.1 hp with hold | hnew
    · exact .inl hold
    · exact .inr ⟨t, ht, List.mem_singleton.1 hnew⟩
  · exact .inl (List.mem_of_mem_eraseP hp)
  · exact .inl hp

/-- No task of a numbered queue has a number that was cancelled. -/
theorem not_mem_ids_editTweens (h : q.Numbered) {id : TweenId} (hid : call.cancels? = some id) :
    id ∉ (call.editTweens w q).ids := by
  have hq : call.editTweens w q = q.cancel id := by
    unfold editTweens
    rw [hid]
  rw [hq, TweenQueue.ids_cancel]
  exact h.nodup.not_mem_erase

end Tweens

end QueueCall

end Stagecraft
