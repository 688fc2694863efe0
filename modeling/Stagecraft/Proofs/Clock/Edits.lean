/-
What is done to a clock, and what becomes of one entry.

Whatever an operation does to a queue, it does to each entry alone: the
entry stays, stays changed, or leaves, and what is new stands behind all
that stays (`Op.run_eq`). So a run over a queue is the runs over its
entries, one after the other, with the entries that the run itself
brought behind them (`queue_runFrom`).

# An entry on its own

This is why an entry can be followed without looking at the others. A
callback may have several entries, and being answered does not say for
which; but two clocks that differ in one entry at the end differ, after
any run, in what the run left of that entry and in nothing else. An
advance answers that entry if it answers one callback more for the clock
that has it (`Answers`), and else it answers the same for both (`Silent`).
-/
import Mathlib.Data.List.Induction
import Stagecraft.Proofs.Frame.QueueCall

namespace Stagecraft

variable {κ α : Type}

namespace Clock

-- ========================================================= the operations

/-- An operation on a clock. -/
inductive Op (κ α : Type) where
  | schedule (c : κ) (delay : α)
  | scheduleUnique (c : κ) (delay : α)
  | scheduleInterval (c : κ) (interval : α)
  | unschedule (c : κ)
  | advance (dt : α)

/-- The clock with one entry more at the end. -/
def withEntry (q : Clock κ α) (e : ScheduledCall κ α) : Clock κ α := ⟨q.queue ++ [e]⟩

end Clock

variable [DecidableEq κ] [Scalar α]

namespace Clock

namespace Op

/-- The clock after an operation. One that is refused changes nothing. -/
def run (q : Clock κ α) : Op κ α → Clock κ α
  | schedule c delay => (q.schedule c delay).toOption.getD q
  | scheduleUnique c delay => (q.scheduleUnique c delay).toOption.getD q
  | scheduleInterval c interval => (q.scheduleInterval c interval).toOption.getD q
  | unschedule c => q.unschedule c
  | advance dt => q.advance dt

omit [DecidableEq κ] in
/-- The callbacks that an operation answers as due. -/
def reports (q : Clock κ α) : Op κ α → List κ
  | advance dt => q.due dt
  | _ => []

/-- What an operation leaves of an entry. -/
def keep? : Op κ α → ScheduledCall κ α → Option (ScheduledCall κ α)
  | advance dt => fun e => (e.countDown dt).rearm?
  | scheduleUnique c delay => fun e =>
    if isDelay delay && e.callback == c then none else some e
  | unschedule c => fun e => if e.callback == c then none else some e
  | _ => some

omit [DecidableEq κ] in
/-- What an operation puts at the end of the queue. -/
def added : Op κ α → List (ScheduledCall κ α)
  | schedule c delay | scheduleUnique c delay => if isDelay delay then [⟨c, delay, 0.0⟩] else []
  | scheduleInterval c interval => if isDelay interval then [⟨c, interval, interval⟩] else []
  | _ => []

end Op

/-- The clock after a list of operations. -/
def runFrom (q : Clock κ α) (ops : List (Op κ α)) : Clock κ α := ops.foldl Op.run q

/-- The callbacks that are answered as due along a list of operations. -/
def reportsFrom (q : Clock κ α) : List (Op κ α) → List κ
  | [] => []
  | op :: ops => op.reports q ++ reportsFrom (op.run q) ops

end Clock

/-- What a list of operations leaves of an entry. -/
def ScheduledCall.after? (ops : List (Clock.Op κ α)) (e : ScheduledCall κ α) :
    Option (ScheduledCall κ α) :=
  ops.foldl (fun left op => left.bind op.keep?) (some e)

/-- Whether an entry is there after the operations, and its time runs out within
`dt` then. -/
def ScheduledCall.reported (e : ScheduledCall κ α) (past : List (Clock.Op κ α)) (dt : α) : Bool :=
  (e.after? past).any fun e => (e.countDown dt).isDue

-- ========================================================== one operation

namespace Clock

omit [DecidableEq κ] in
/-- An operation that is refused leaves the clock, and one that is not does what
it does to an accepted delay. -/
private theorem getD_ensurePositive (what : String) (delay : α) (f : α → Clock κ α)
    (q : Clock κ α) :
    ((ensurePositive what delay).map f).toOption.getD q = if isDelay delay then f delay else q := by
  cases hdelay : isDelay delay with
  | true =>
      rw [ensurePositive_of_isDelay hdelay]
      rfl
  | false =>
      obtain ⟨f, hf⟩ := ensurePositive_of_not_isDelay hdelay what
      rw [hf]
      rfl

omit [Scalar α] in
/-- Dropping the entries of a callback, entry by entry. -/
private theorem filter_callback (queue : List (ScheduledCall κ α)) (c : κ) :
    queue.filter (fun e => e.callback != c)
      = queue.filterMap fun e => if e.callback == c then none else some e := by
  rw [← List.filterMap_eq_filter]
  refine List.filterMap_congr fun e _ => ?_
  by_cases h : e.callback = c
  · simp [Option.guard, h]
  · simp [Option.guard, h]

/-- What an operation does, entry by entry. -/
theorem Op.run_eq (q : Clock κ α) (op : Op κ α) :
    op.run q = ⟨q.queue.filterMap op.keep? ++ op.added⟩ := by
  cases op with
  | schedule c delay =>
      refine (getD_ensurePositive "delay" delay _ q).trans ?_
      by_cases hdelay : isDelay delay = true <;> simp [keep?, added, hdelay]
  | scheduleUnique c delay =>
      refine (getD_ensurePositive "delay" delay _ q).trans ?_
      by_cases hdelay : isDelay delay = true
      · simp [keep?, added, hdelay, Clock.unschedule, filter_callback]
      · simp [keep?, added, hdelay]
  | scheduleInterval c interval =>
      refine (getD_ensurePositive "interval" interval _ q).trans ?_
      by_cases hdelay : isDelay interval = true <;> simp [keep?, added, hdelay]
  | unschedule c => simp [run, Clock.unschedule, keep?, added, filter_callback]
  | advance dt => simp [run, Clock.advance, counted, keep?, added]

/-- What is kept of an entry is for the same callback. -/
theorem Op.callback_of_keep? {op : Op κ α} {e left : ScheduledCall κ α}
    (h : op.keep? e = some left) : left.callback = e.callback := by
  cases op with
  | schedule c delay => cases h; rfl
  | scheduleInterval c interval => cases h; rfl
  | scheduleUnique c delay =>
      obtain ⟨-, h⟩ := Option.ite_none_left_eq_some.1 h
      cases h
      rfl
  | unschedule c =>
      obtain ⟨-, h⟩ := Option.ite_none_left_eq_some.1 h
      cases h
      rfl
  | advance dt =>
      simp only [keep?, ScheduledCall.rearm?] at h
      split at h
      · obtain ⟨-, h⟩ := Option.ite_none_right_eq_some.1 h
        cases h
        rfl
      · cases h
        rfl

-- ================================================================ runs

theorem runFrom_append (q : Clock κ α) (ops more : List (Op κ α)) :
    q.runFrom (ops ++ more) = (q.runFrom ops).runFrom more := List.foldl_append

theorem reportsFrom_append (q : Clock κ α) (ops more : List (Op κ α)) :
    q.reportsFrom (ops ++ more) = q.reportsFrom ops ++ (q.runFrom ops).reportsFrom more := by
  induction ops generalizing q with
  | nil => rfl
  | cons op ops ih =>
      rw [List.cons_append, reportsFrom, ih, reportsFrom, List.append_assoc]
      rfl

end Clock

namespace ScheduledCall

open Clock

theorem after?_append (e : ScheduledCall κ α) (ops : List (Op κ α)) (op : Op κ α) :
    e.after? (ops ++ [op]) = (e.after? ops).bind op.keep? := List.foldl_concat ..

/-- What is left of an entry is for the same callback. -/
theorem callback_of_after? {e left : ScheduledCall κ α} {ops : List (Op κ α)}
    (h : e.after? ops = some left) : left.callback = e.callback := by
  induction ops using List.reverseRecOn generalizing left with
  | nil => exact congrArg callback (Option.some.inj h).symm
  | append_singleton ops op ih =>
      rw [after?_append, Option.bind_eq_some_iff] at h
      obtain ⟨before, hbefore, hleft⟩ := h
      rw [← ih hbefore]
      exact Op.callback_of_keep? hleft

end ScheduledCall

namespace Clock

/-- A run, entry by entry: what it leaves of the entries, and what it brings. -/
theorem queue_runFrom (q : Clock κ α) (ops : List (Op κ α)) :
    (q.runFrom ops).queue
      = q.queue.filterMap (ScheduledCall.after? ops) ++ (empty.runFrom ops).queue := by
  induction ops using List.reverseRecOn with
  | nil =>
      show q.queue = q.queue.filterMap some ++ []
      rw [List.filterMap_some, List.append_nil]
  | append_singleton ops op ih =>
      have hrun : ∀ r : Clock κ α, (r.runFrom (ops ++ [op])).queue
          = (r.runFrom ops).queue.filterMap op.keep? ++ op.added := by
        intro r
        rw [runFrom_append]
        exact congrArg queue (Op.run_eq (r.runFrom ops) op)
      have hleft : ScheduledCall.after? (ops ++ [op])
          = fun e => (ScheduledCall.after? ops e).bind op.keep? :=
        funext fun e => e.after?_append ops op
      rw [hrun, hrun, ih, List.filterMap_append, List.filterMap_filterMap, hleft,
        List.append_assoc]

-- ============================================== clocks that differ in an entry

omit [DecidableEq κ] in
theorem due_append (queue more : List (ScheduledCall κ α)) (dt : α) :
    (⟨queue ++ more⟩ : Clock κ α).due dt
      = (⟨queue⟩ : Clock κ α).due dt ++ (⟨more⟩ : Clock κ α).due dt := by
  unfold due counted
  rw [List.map_append, List.filter_append, List.map_append]

/-- What is left of one entry is answered if its time runs out. -/
theorem due_after? (e : ScheduledCall κ α) (past : List (Op κ α)) (dt : α) :
    (⟨(e.after? past).toList⟩ : Clock κ α).due dt
      = if e.reported past dt then [e.callback] else [] := by
  unfold ScheduledCall.reported
  cases hleft : e.after? past with
  | none => rfl
  | some left =>
      rw [← ScheduledCall.callback_of_after? hleft]
      show ([left.countDown dt].filter ScheduledCall.isDue).map ScheduledCall.callback
        = if (left.countDown dt).isDue then [left.callback] else []
      by_cases hdue : (left.countDown dt).isDue = true
      · rw [if_pos hdue, List.filter_cons_of_pos hdue]
        rfl
      · rw [if_neg hdue, List.filter_cons_of_neg hdue]
        rfl

/-- An entry at the end of a queue is answered in one place or in none, and
changes nothing about what else is answered. -/
theorem due_runFrom_entry (q : Clock κ α) (e : ScheduledCall κ α) (past : List (Op κ α))
    (dt : α) :
    ∃ before behind, (q.runFrom past).due dt = before ++ behind
      ∧ ((q.withEntry e).runFrom past).due dt
        = before ++ ((if e.reported past dt then [e.callback] else []) ++ behind) := by
  have hdue : ∀ queue : List (ScheduledCall κ α),
      ((⟨queue⟩ : Clock κ α).runFrom past).due dt
        = (⟨queue.filterMap (ScheduledCall.after? past)⟩ : Clock κ α).due dt
          ++ (empty.runFrom past).due dt := by
    intro queue
    rw [← due_append]
    exact congrArg (fun queue => due ⟨queue⟩ dt) (queue_runFrom ⟨queue⟩ past)
  refine ⟨_, _, hdue q.queue, ?_⟩
  have hone : [e].filterMap (ScheduledCall.after? past) = (e.after? past).toList := by
    cases h : e.after? past <;> simp [h]
  refine (hdue (q.queue ++ [e])).trans ?_
  rw [List.filterMap_append, due_append, hone, due_after?, List.append_assoc]

/-- The advance by `dt` after the operations answers `c` for the second clock once
more than for the first, and answers nothing else differently. -/
def Answers (q r : Clock κ α) (c : κ) (past : List (Op κ α)) (dt : α) : Prop :=
  ∃ before behind, (q.runFrom past).due dt = before ++ behind
    ∧ (r.runFrom past).due dt = before ++ c :: behind

/-- The advance by `dt` after the operations answers the same for both clocks. -/
def Silent (q r : Clock κ α) (past : List (Op κ α)) (dt : α) : Prop :=
  (r.runFrom past).due dt = (q.runFrom past).due dt

variable {q : Clock κ α} {e : ScheduledCall κ α} {past : List (Op κ α)} {dt : α}

/-- One callback more is never the same. -/
theorem Answers.not_silent {r : Clock κ α} {c : κ} (h : Answers q r c past dt) :
    ¬Silent q r past dt := by
  obtain ⟨before, behind, hwithout, hwith⟩ := h
  intro hsame
  have hlength := congrArg List.length (hwith.symm.trans (hsame.trans hwithout))
  simp at hlength

/-- An entry that is not answered makes no difference. -/
theorem silent_of_not_reported (h : ¬e.reported past dt = true) :
    Silent q (q.withEntry e) past dt := by
  obtain ⟨before, behind, hwithout, hwith⟩ := due_runFrom_entry q e past dt
  rw [if_neg h, List.nil_append, ← hwithout] at hwith
  exact hwith

/-- An entry is answered when it is there and its time runs out. -/
theorem answers_iff : Answers q (q.withEntry e) e.callback past dt ↔ e.reported past dt = true := by
  constructor
  · intro h
    by_contra hno
    exact h.not_silent (silent_of_not_reported hno)
  · intro hyes
    obtain ⟨before, behind, hwithout, hwith⟩ := due_runFrom_entry q e past dt
    rw [if_pos hyes] at hwith
    exact ⟨before, behind, hwithout, hwith⟩

/-- An advance adds one to what tells the answers apart, if the entry is due. -/
theorem count_advance {n : Nat} (dt : α)
    (h : ((q.withEntry e).reportsFrom past).count e.callback
      = (q.reportsFrom past).count e.callback + n) :
    ((q.withEntry e).reportsFrom (past ++ [.advance dt])).count e.callback
      = (q.reportsFrom (past ++ [.advance dt])).count e.callback
        + (n + if e.reported past dt then 1 else 0) := by
  have hone : ∀ r : Clock κ α, r.reportsFrom [.advance dt] = r.due dt :=
    fun r => List.append_nil (r.due dt)
  obtain ⟨before, behind, hwithout, hwith⟩ := due_runFrom_entry q e past dt
  rw [reportsFrom_append, reportsFrom_append, hone, hone, hwithout, hwith]
  simp only [List.count_append, h]
  split <;> simp <;> omega

/-- No other operation answers anything. -/
theorem count_idle {op : Op κ α} (hop : ∀ r, op.reports r = []) {n : Nat}
    (h : ((q.withEntry e).reportsFrom past).count e.callback
      = (q.reportsFrom past).count e.callback + n) :
    ((q.withEntry e).reportsFrom (past ++ [op])).count e.callback
      = (q.reportsFrom (past ++ [op])).count e.callback + n := by
  have hone : ∀ r : Clock κ α, r.reportsFrom [op] = [] :=
    fun r => (List.append_nil (op.reports r)).trans (hop r)
  rw [reportsFrom_append, reportsFrom_append, hone, hone, List.append_nil, List.append_nil, h]

end Clock

end Stagecraft
