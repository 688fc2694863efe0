/-
What is true of waiting calls at any time, in exact time.

An entry always has time left. That is so when it is scheduled, since only
delays above zero are accepted, and an advance keeps it so: an entry whose
time runs out leaves, or is armed again, and any other still has what it had
left before, less the delta. An entry that recurs is never armed with more
than its interval, as long as time does not go back; one that is called once
has the interval zero. These three belong together (`ScheduledCall.Pending`),
since what an advance makes of an entry hangs on its interval.

Every operation treats each entry alone (`Op.run_eq`), so what one operation
keeps of one entry (`Pending.keep?`) is kept of a clock along any run
(`Reachable.pending`).

# What an advance leaves

An advance takes away the entries that are due and called once, and no
others; the rest stay in their order (`queue_advance`). So the queue gets
shorter by what was answered of these, and it does not change at all in an
advance by zero, which is all that the clock sees of a pause.
-/
import Stagecraft.Proofs.Clock.Passage

namespace Stagecraft

variable {κ : Type}

-- ======================================================= what stays, in order

section Advance

variable {α : Type} [Scalar α]

namespace ScheduledCall

/-- Whether an advance by `dt` takes an entry away: it is due, and called once. -/
def ends (dt : α) (e : ScheduledCall κ α) : Bool := (e.countDown dt).isDue && !e.isRecurring

/-- An entry that stays, after an advance by `dt`. -/
def later (dt : α) (e : ScheduledCall κ α) : ScheduledCall κ α :=
  { e with remaining := if (e.countDown dt).isDue then e.interval else e.remaining - dt }

theorem rearm?_countDown (dt : α) (e : ScheduledCall κ α) :
    (e.countDown dt).rearm? = if e.ends dt then none else some (e.later dt) := by
  have hrecurring : (e.countDown dt).isRecurring = e.isRecurring := rfl
  unfold rearm? ends later
  rw [hrecurring]
  cases hdue : (e.countDown dt).isDue with
  | false => rfl
  | true => cases e.isRecurring <;> rfl

end ScheduledCall

/-- The entries that an advance does not take away stay in their order. -/
theorem Clock.queue_advance (q : Clock κ α) (dt : α) :
    (q.advance dt).queue
      = (q.queue.filter fun e => !e.ends dt).map (ScheduledCall.later dt) := by
  unfold Clock.advance Clock.counted
  rw [List.filterMap_map, ← List.filterMap_eq_map, List.filterMap_filter]
  refine List.filterMap_congr fun e _ => ?_
  refine (e.rearm?_countDown dt).trans ?_
  cases e.ends dt <;> rfl

/-- The queue gets shorter by the entries that are taken away. -/
theorem Clock.length_advance (q : Clock κ α) (dt : α) :
    (q.advance dt).queue.length + q.queue.countP (ScheduledCall.ends dt) = q.queue.length := by
  rw [queue_advance, List.length_map, ← List.countP_eq_length_filter, Nat.add_comm,
    List.length_eq_countP_add_countP (ScheduledCall.ends dt)]
  refine congrArg _ (List.countP_congr fun e _ => ?_)
  simp

end Advance

-- ============================================================ the invariant

variable {K : Type} [Field K] [LinearOrder K] [FloorRing K]

/-- An entry has time left, and no more than its interval if it recurs. One that is
called once has the interval zero. -/
structure ScheduledCall.Pending (e : ScheduledCall κ K) : Prop where
  left : 0 < e.remaining
  recurring : 0 < e.interval → e.remaining ≤ e.interval
  once : ¬0 < e.interval → e.interval = 0

namespace Clock

variable [DecidableEq κ]

/-- The clocks that come of an empty one by operations, as long as time does not go back,
and by being emptied. -/
inductive Reachable : Clock κ K → Prop where
  | empty : Reachable .empty
  | run {q : Clock κ K} {op : Op κ K} (h : Reachable q) (hop : 0 ≤ op.delta) :
      Reachable (op.run q)
  | clear {q : Clock κ K} (h : Reachable q) : Reachable { q with queue := [] }

theorem Reachable.runFrom {q : Clock κ K} (hq : Reachable q) {ops : List (Op κ K)}
    (hops : ∀ op ∈ ops, 0 ≤ op.delta) : Reachable (q.runFrom ops) :=
  List.foldlRecOn ops Op.run hq fun _ h op hop => h.run (hops op hop)

omit [DecidableEq κ] in
/-- What an operation brings has its full delay left. -/
theorem Op.pending_of_added {op : Op κ K} {e : ScheduledCall κ K} (he : e ∈ op.added) :
    e.Pending := by
  have hzero : ¬(0 : K) < 0.0 := by rw [Scalar.zero_exact]; exact lt_irrefl 0
  cases op with
  | schedule c delay | scheduleUnique c delay =>
      dsimp only [added] at he
      split at he
      · next hdelay =>
        rw [List.mem_singleton.1 he]
        exact ⟨(isDelay_exact delay).1 hdelay, fun h => absurd h hzero, fun _ => Scalar.zero_exact⟩
      · cases he
  | scheduleInterval c interval =>
      dsimp only [added] at he
      split at he
      · next hdelay =>
        have hpos := (isDelay_exact interval).1 hdelay
        rw [List.mem_singleton.1 he]
        exact ⟨hpos, fun _ => le_rfl, fun h => absurd hpos h⟩
      · cases he
  | unschedule c | advance dt => cases he

variable [IsStrictOrderedRing K]

/-- An operation leaves no entry without time, if time does not go back. -/
theorem Op.pending_of_keep? {op : Op κ K} (hop : 0 ≤ op.delta) {e left : ScheduledCall κ K}
    (he : e.Pending) (hleft : op.keep? e = some left) : left.Pending := by
  cases op with
  | advance dt =>
      by_cases hwaits : dt < e.remaining
      · rw [keep?_of_lt hwaits] at hleft
        cases hleft
        exact ⟨sub_pos.2 hwaits, fun hi => (sub_le_self _ hop).trans (he.recurring hi), he.once⟩
      · rw [keep?_of_le (not_lt.1 hwaits)] at hleft
        obtain ⟨hi, hleft⟩ := Option.ite_none_right_eq_some.1 hleft
        cases hleft
        exact ⟨hi, fun _ => le_rfl, fun h => absurd hi h⟩
  | schedule c delay | scheduleInterval c interval =>
      cases hleft
      exact he
  | scheduleUnique c delay | unschedule c =>
      dsimp only [keep?] at hleft
      split at hleft <;> cases hleft
      exact he

/-- Along any run, every entry is pending. -/
theorem Reachable.pending {q : Clock κ K} (hq : Reachable q) : ∀ e ∈ q.queue, e.Pending := by
  induction hq with
  | empty | clear => exact fun e he => absurd he List.not_mem_nil
  | run h hop ih =>
      intro e he
      rw [Op.run_eq, List.mem_append, List.mem_filterMap] at he
      rcases he with ⟨old, hold, hleft⟩ | hadded
      · exact Op.pending_of_keep? hop (ih old hold) hleft
      · exact Op.pending_of_added hadded

-- ============================================================= the result

/-- What an advance by `dt` answers, and what it leaves. -/
structure Advanced (q : Clock κ K) (dt : K) : Prop where
  /-- The callbacks of the entries whose time has passed are answered, in order. -/
  answered : q.due dt
    = (q.queue.filter fun e => decide (e.remaining ≤ dt)).map ScheduledCall.callback
  /-- The entries that recur or have more time left stay, in order, armed again or with
  less time left. -/
  stays : (q.advance dt).queue
    = (q.queue.filter fun e => decide (0 < e.interval ∨ dt < e.remaining)).map fun e =>
        { e with remaining := if e.remaining ≤ dt then e.interval else e.remaining - dt }
  /-- None that recurs is taken away. -/
  recurring : ((q.advance dt).queue.filter fun e => decide (0 < e.interval)).map
      (fun e => (e.callback, e.interval))
    = (q.queue.filter fun e => decide (0 < e.interval)).map fun e => (e.callback, e.interval)
  /-- The queue gets shorter by the entries that are answered and called once. -/
  shorter : (q.advance dt).queue.length
      + (q.queue.filter fun e => decide (e.remaining ≤ dt)).countP (fun e => decide (e.interval = 0))
    = q.queue.length

omit [DecidableEq κ] in
theorem ends_iff {e : ScheduledCall κ K} {dt : K} :
    e.ends dt = true ↔ e.remaining ≤ dt ∧ ¬0 < e.interval := by
  unfold ScheduledCall.ends ScheduledCall.isRecurring
  rw [Bool.and_eq_true, isDue_countDown, Bool.not_eq_true', decide_eq_false_iff_not,
    Scalar.zero_exact]

omit [DecidableEq κ] in
theorem not_ends_iff {e : ScheduledCall κ K} {dt : K} :
    (!e.ends dt) = true ↔ 0 < e.interval ∨ dt < e.remaining := by
  rw [Bool.not_eq_true', ← Bool.not_eq_true, ends_iff, not_and_or, not_le, not_not, or_comm]

omit [DecidableEq κ] in
/-- What an advance does to a queue of pending entries. -/
theorem advanced_of_pending {q : Clock κ K} (hq : ∀ e ∈ q.queue, e.Pending) (dt : K) :
    Advanced q dt := by
  have hlater : ∀ e : ScheduledCall κ K, e.later dt
      = { e with remaining := if e.remaining ≤ dt then e.interval else e.remaining - dt } := by
    intro e
    unfold ScheduledCall.later
    simp only [isDue_countDown]
  constructor
  case answered =>
    unfold due counted
    rw [List.filter_map, List.map_map]
    refine congrArg _ (List.filter_congr fun e _ => ?_)
    exact Bool.eq_iff_iff.2 ((isDue_countDown e dt).trans decide_eq_true_iff.symm)
  case stays =>
    rw [queue_advance, List.map_congr_left fun e _ => hlater e]
    refine congrArg _ (List.filter_congr fun e _ => ?_)
    exact Bool.eq_iff_iff.2 (not_ends_iff.trans decide_eq_true_iff.symm)
  case recurring =>
    rw [queue_advance, List.filter_map, List.map_map, List.filter_filter]
    refine congrArg _ (List.filter_congr fun e _ => Bool.eq_iff_iff.2 ?_)
    rw [Bool.and_eq_true, not_ends_iff, Function.comp_apply, decide_eq_true_iff,
      decide_eq_true_iff]
    exact and_iff_left_of_imp Or.inl
  case shorter =>
    rw [← length_advance q dt, List.countP_filter]
    refine congrArg _ (List.countP_congr fun e he => ?_)
    rw [Bool.and_eq_true, decide_eq_true_iff, decide_eq_true_iff, ends_iff, and_comm]
    refine and_congr_right fun _ => ⟨fun hzero => hzero.not_gt, (hq e he).once⟩

omit [DecidableEq κ] in
/-- An advance by zero answers nothing and leaves all as it is. -/
theorem advance_zero {q : Clock κ K} (hq : ∀ e ∈ q.queue, e.Pending) :
    q.due 0 = [] ∧ q.advance 0 = q := by
  have hadvanced := advanced_of_pending hq 0
  constructor
  · rw [hadvanced.answered, List.map_eq_nil_iff, List.filter_eq_nil_iff]
    intro e he
    rw [decide_eq_true_iff]
    exact not_le.2 (hq e he).left
  · have hqueue : (q.advance 0).queue = q.queue := by
      rw [hadvanced.stays, List.filter_eq_self.2 fun e he => decide_eq_true (.inr (hq e he).left)]
      refine (List.map_congr_left fun e he => ?_).trans (List.map_id _)
      rw [if_neg (not_le.2 (hq e he).left), sub_zero]
      rfl
    exact congrArg Clock.mk hqueue

/-- **Every clock that can be reached waits**: its entries have time left, those that
recur no more than their interval, and an advance takes away the calls that it answers
and that are made once, and none of the others. -/
theorem reachable_clocks_wait {q : Clock κ K} (hq : Reachable q) :
    (∀ e ∈ q.queue, 0 < e.remaining ∧ (e.isRecurring = true → e.remaining ≤ e.interval)
        ∧ (e.isRecurring = false → e.interval = 0))
      ∧ (∀ dt, Advanced q dt) ∧ q.due 0 = [] ∧ q.advance 0 = q := by
  have hpending := hq.pending
  refine ⟨fun e he => ?_, advanced_of_pending hpending, advance_zero hpending⟩
  obtain ⟨hleft, hrecurring, honce⟩ := hpending e he
  unfold ScheduledCall.isRecurring
  rw [decide_eq_true_iff, decide_eq_false_iff_not, Scalar.zero_exact]
  exact ⟨hleft, hrecurring, honce⟩

/-- A clock with a call after one second and another one every two, half a second on. -/
def halfSecondOn : Clock ℕ ℚ :=
  (empty : Clock ℕ ℚ).runFrom [.schedule 7 1, .scheduleInterval 8 2, .advance (1 / 2)]

/-- Another half a second later the first call is answered and taken away. -/
theorem half_a_second_on_one_waits :
    Reachable halfSecondOn ∧ halfSecondOn.due (1 / 2) = [7]
      ∧ (halfSecondOn.advance (1 / 2)).queue.length = 1
      ∧ halfSecondOn.advance 0 = halfSecondOn := by
  have hreachable : Reachable halfSecondOn := Reachable.empty.runFrom (by norm_num [Op.delta])
  have hqueue : halfSecondOn.queue = [⟨7, 1 / 2, 0⟩, ⟨8, 3 / 2, 2⟩] := by decide +kernel
  obtain ⟨-, hadvanced, -, hzero⟩ := reachable_clocks_wait hreachable
  obtain ⟨hanswered, -, -, hshorter⟩ := hadvanced (1 / 2)
  rw [hqueue] at hanswered hshorter
  refine ⟨hreachable, hanswered.trans ?_, ?_, hzero⟩
  · decide +kernel
  · norm_num [List.filter] at hshorter
    exact Nat.succ.inj hshorter

end Clock

end Stagecraft
