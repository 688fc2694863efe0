/-
When a waiting callback is called, in exact time.

An entry waits for a sum: a call that happens once for the time since it
was scheduled, a recurring one for the time since it was answered last.
The clock keeps no sums. It counts every entry down and throws away what
is left over when one is answered, so what has to be shown is that the
remaining time and the sum belong together along every run, whatever
else is done to the queue in between.

# The two counts

Over a run a recurring entry answers at most as often as its interval
goes into the time that passed: each answer needs a full interval, and
what was left over is lost. Where the deltas are an exact part of the
interval nothing is lost, and every `k`-th advance answers.
-/
import Mathlib.Data.Rat.Floor
import Mathlib.Tactic.Ring
import Mathlib.Tactic.FieldSimp
import Stagecraft.Proofs.Clock.Edits
import Stagecraft.Proofs.Exact

namespace Stagecraft.Clock

variable {κ K : Type} [DecidableEq κ] [Field K] [LinearOrder K] [FloorRing K]

-- ============================================================= the terms

/-- The time that an operation lets pass. -/
def Op.delta : Op κ K → K
  | advance dt => dt
  | _ => 0

/-- The time that passes along a list of operations. -/
def total (ops : List (Op κ K)) : K := (ops.map Op.delta).sum

def Op.isAdvance : Op κ K → Bool
  | advance _ => true
  | _ => false

/-- What may be done while an entry of a callback waits: time does not go back,
and the entries of the callback are not dropped. -/
def Op.Fair (c : κ) : Op κ K → Prop
  | advance dt => 0 ≤ dt
  | unschedule k => k ≠ c
  | scheduleUnique k delay => 0 < delay → k ≠ c
  | _ => True

-- ============================================================ one operation

omit [DecidableEq κ] in
theorem total_append (ops : List (Op κ K)) (op : Op κ K) :
    total (ops ++ [op]) = total ops + op.delta := by
  unfold total
  rw [List.map_append, List.sum_append, List.map_singleton, List.sum_singleton]

/-- What may be done lets time pass, or it leaves the entries of the callback. -/
theorem Op.Fair.cases {c : κ} {op : Op κ K} (h : op.Fair c) :
    (∃ dt, op = .advance dt ∧ 0 ≤ dt)
      ∨ (op.delta = 0 ∧ op.isAdvance = false ∧ (∀ q, op.reports q = [])
        ∧ ∀ e : ScheduledCall κ K, e.callback = c → op.keep? e = some e) := by
  cases op with
  | advance dt => exact .inl ⟨dt, rfl, h⟩
  | schedule k delay => exact .inr ⟨rfl, rfl, fun _ => rfl, fun _ _ => rfl⟩
  | scheduleInterval k interval => exact .inr ⟨rfl, rfl, fun _ => rfl, fun _ _ => rfl⟩
  | unschedule k =>
      refine .inr ⟨rfl, rfl, fun _ => rfl, fun e he => ?_⟩
      have hne : ¬(e.callback == k) = true := by
        rw [he, beq_iff_eq]
        exact Ne.symm h
      exact if_neg hne
  | scheduleUnique k delay =>
      refine .inr ⟨rfl, rfl, fun _ => rfl, fun e he => ?_⟩
      have hne : ¬(isDelay delay && e.callback == k) = true := by
        rw [he, Bool.and_eq_true, isDelay_exact, beq_iff_eq]
        rintro ⟨hdelay, rfl⟩
        exact h hdelay rfl
      exact if_neg hne

variable [IsStrictOrderedRing K]

omit [DecidableEq κ] in
/-- An entry is due when its remaining time has passed. -/
theorem isDue_countDown (e : ScheduledCall κ K) (dt : K) :
    (e.countDown dt).isDue = true ↔ e.remaining ≤ dt := by
  unfold ScheduledCall.isDue ScheduledCall.countDown
  rw [decide_eq_true_iff, Scalar.zero_exact]
  exact sub_nonpos

/-- An entry that is not due has less time left. -/
theorem keep?_of_lt {e : ScheduledCall κ K} {dt : K} (h : dt < e.remaining) :
    (Op.advance dt).keep? e = some { e with remaining := e.remaining - dt } :=
  if_neg fun hdue => absurd ((isDue_countDown e dt).1 hdue) (not_le.2 h)

/-- An entry that is due and recurs is armed again. -/
theorem keep?_of_le {e : ScheduledCall κ K} {dt : K} (h : e.remaining ≤ dt) :
    (Op.advance dt).keep? e
      = if 0 < e.interval then some { e with remaining := e.interval } else none := by
  refine (if_pos ((isDue_countDown e dt).2 h)).trans ?_
  unfold ScheduledCall.isRecurring ScheduledCall.countDown
  simp only [decide_eq_true_eq, Scalar.zero_exact]

-- ========================================================== one call only

variable {c : κ} {d i : K} {past : List (Op κ K)}

/-- An entry that is called once has the time left that has not passed yet, and
is gone when its delay has passed. -/
theorem after?_once (hd : 0 < d) (hpast : ∀ op ∈ past, op.Fair c) :
    (⟨c, d, 0.0⟩ : ScheduledCall κ K).after? past
      = if total past < d then some ⟨c, d - total past, 0.0⟩ else none := by
  induction past using List.reverseRecOn with
  | nil =>
      show some _ = _
      rw [total, List.map_nil, List.sum_nil, if_pos hd, sub_zero]
  | append_singleton past op ih =>
      rw [List.forall_mem_append, List.forall_mem_singleton] at hpast
      obtain ⟨hbefore, hop⟩ := hpast
      have hleft := ih hbefore
      rw [ScheduledCall.after?_append, hleft, total_append]
      obtain ⟨dt, rfl, hdt⟩ | ⟨hdelta, -, -, hkeep⟩ := hop.cases
      · show _ = if total past + dt < d then _ else none
        by_cases hwaits : total past < d
        · rw [if_pos hwaits, Option.bind_some]
          by_cases hstill : total past + dt < d
          · rw [if_pos hstill, keep?_of_lt (lt_sub_iff_add_lt'.2 hstill), sub_sub]
            rfl
          · rw [if_neg hstill, keep?_of_le (sub_le_iff_le_add'.2 (not_lt.1 hstill)),
              if_neg (by rw [Scalar.zero_exact]; exact lt_irrefl 0)]
        · have hover : ¬total past + dt < d := not_lt.2 (by linarith)
          rw [if_neg hwaits, if_neg hover]
          rfl
      · rw [hdelta, add_zero]
        split
        · exact hkeep _ rfl
        · rfl

/-- It is answered when the sum of the deltas reaches its delay. -/
theorem reported_once (hd : 0 < d) (hpast : ∀ op ∈ past, op.Fair c) (dt : K) :
    (⟨c, d, 0.0⟩ : ScheduledCall κ K).reported past dt = true
      ↔ total past < d ∧ d ≤ total past + dt := by
  unfold ScheduledCall.reported
  rw [after?_once hd hpast]
  by_cases hwaits : total past < d
  · rw [if_pos hwaits, Option.any_some, isDue_countDown]
    constructor
    · exact fun hdue => ⟨hwaits, sub_le_iff_le_add'.1 hdue⟩
    · exact fun hdue => sub_le_iff_le_add'.2 hdue.2
  · rw [if_neg hwaits, Option.any_none]
    constructor
    · exact fun hno => absurd hno Bool.false_ne_true
    · exact fun hdue => absurd hdue.1 hwaits

-- ===================================================== one call after the other

/-- A recurring entry counts down, and is armed again when it is due. -/
theorem keep?_recurring (hi : 0 < i) (r dt : K) :
    (Op.advance dt).keep? (⟨c, r, i⟩ : ScheduledCall κ K)
      = some ⟨c, if r ≤ dt then i else r - dt, i⟩ := by
  by_cases hdue : r ≤ dt
  · rw [if_pos hdue]
    exact (keep?_of_le hdue).trans (if_pos hi)
  · rw [if_neg hdue]
    exact keep?_of_lt (not_le.1 hdue)

/-- A recurring entry never leaves, and always has time left. -/
theorem after?_recurring (hi : 0 < i) (hpast : ∀ op ∈ past, op.Fair c) :
    ∃ r, 0 < r ∧ (⟨c, i, i⟩ : ScheduledCall κ K).after? past = some ⟨c, r, i⟩ := by
  induction past using List.reverseRecOn with
  | nil => exact ⟨i, hi, rfl⟩
  | append_singleton past op ih =>
      rw [List.forall_mem_append, List.forall_mem_singleton] at hpast
      obtain ⟨hbefore, hop⟩ := hpast
      obtain ⟨r, hr, hleft⟩ := ih hbefore
      rw [ScheduledCall.after?_append, hleft, Option.bind_some]
      obtain ⟨dt, rfl, -⟩ | ⟨-, -, -, hkeep⟩ := hop.cases
      · refine ⟨_, ?_, keep?_recurring hi r dt⟩
        split
        · exact hi
        · linarith
      · exact ⟨r, hr, hkeep _ rfl⟩

/-- It is answered when the time that it has left passes. -/
theorem reported_recurring {r : K}
    (hleft : (⟨c, i, i⟩ : ScheduledCall κ K).after? past = some ⟨c, r, i⟩) (dt : K) :
    (⟨c, i, i⟩ : ScheduledCall κ K).reported past dt = true ↔ r ≤ dt := by
  unfold ScheduledCall.reported
  rw [hleft, Option.any_some, isDue_countDown]

/-- After an answer it waits for its full interval. -/
theorem after?_answered (hi : 0 < i) (hpast : ∀ op ∈ past, op.Fair c) {last : K}
    (h : (⟨c, i, i⟩ : ScheduledCall κ K).reported past last = true) :
    (⟨c, i, i⟩ : ScheduledCall κ K).after? (past ++ [.advance last]) = some ⟨c, i, i⟩ := by
  obtain ⟨r, -, hleft⟩ := after?_recurring hi hpast
  have hdue := (reported_recurring hleft last).1 h
  rw [ScheduledCall.after?_append, hleft, Option.bind_some, keep?_recurring hi, if_pos hdue]

/-- As long as it is not answered, the time that it has left and the time that
passed make up its interval. -/
theorem after?_unanswered {old recent : List (Op κ K)} (hi : 0 < i)
    (hrecent : ∀ op ∈ recent, op.Fair c)
    (hold : (⟨c, i, i⟩ : ScheduledCall κ K).after? old = some ⟨c, i, i⟩)
    (hnone : ∀ before dt behind, recent = before ++ .advance dt :: behind →
      ¬(⟨c, i, i⟩ : ScheduledCall κ K).reported (old ++ before) dt = true) :
    (⟨c, i, i⟩ : ScheduledCall κ K).after? (old ++ recent)
      = some ⟨c, i - total recent, i⟩ := by
  induction recent using List.reverseRecOn with
  | nil =>
      rw [List.append_nil, hold, total, List.map_nil, List.sum_nil, sub_zero]
  | append_singleton recent op ih =>
      rw [List.forall_mem_append, List.forall_mem_singleton] at hrecent
      obtain ⟨hbefore, hop⟩ := hrecent
      have hleft := ih hbefore
        fun before dt behind hsplit => hnone before dt (behind ++ [op]) (by rw [hsplit]; simp)
      rw [← List.append_assoc, ScheduledCall.after?_append, hleft, Option.bind_some,
        total_append]
      obtain ⟨dt, rfl, -⟩ | ⟨hdelta, -, -, hkeep⟩ := hop.cases
      · have hwaits : ¬i - total recent ≤ dt :=
          fun hdue => hnone recent dt [] rfl ((reported_recurring hleft dt).2 hdue)
        rw [keep?_recurring hi, if_neg hwaits, sub_sub]
        rfl
      · rw [hdelta, add_zero]
        exact hkeep _ rfl

-- ============================================================= the counts

section Counts

variable {q : Clock κ K}

/-- One call only adds one to what is answered, once its delay has passed. -/
theorem count_once (hd : 0 < d) (hpast : ∀ op ∈ past, op.Fair c) :
    ((q.withEntry ⟨c, d, 0.0⟩).reportsFrom past).count c
      = (q.reportsFrom past).count c + if d ≤ total past then 1 else 0 := by
  induction past using List.reverseRecOn with
  | nil =>
      rw [total, List.map_nil, List.sum_nil, if_neg (not_le.2 hd)]
      rfl
  | append_singleton past op ih =>
      rw [List.forall_mem_append, List.forall_mem_singleton] at hpast
      obtain ⟨hbefore, hop⟩ := hpast
      have hcount := ih hbefore
      rw [total_append]
      obtain ⟨dt, rfl, hdt⟩ | ⟨hdelta, -, hreports, -⟩ := hop.cases
      · refine (count_advance (e := ⟨c, d, 0.0⟩) dt hcount).trans ?_
        show _ = _ + if d ≤ total past + dt then 1 else 0
        have hdue := reported_once hd hbefore dt
        -- answered now, or at an earlier time, or not yet
        by_cases hreported : (⟨c, d, 0.0⟩ : ScheduledCall κ K).reported past dt = true
        · obtain ⟨hwaits, hpassed⟩ := hdue.1 hreported
          rw [if_neg (not_le.2 hwaits), if_pos hreported, if_pos hpassed]
        · rw [if_neg hreported, add_zero]
          by_cases hpassed : d ≤ total past
          · rw [if_pos hpassed, if_pos (hpassed.trans (le_add_of_nonneg_right hdt))]
          · have hnot : ¬d ≤ total past + dt :=
              fun hle => hreported (hdue.2 ⟨not_le.1 hpassed, hle⟩)
            rw [if_neg hpassed, if_neg hnot]
      · rw [hdelta, add_zero]
        exact count_idle (e := ⟨c, d, 0.0⟩) hreports hcount

/-- Every answer of a recurring entry takes a full interval of the time that
passed; the rest is what the entry counted down since, or was thrown away. -/
theorem count_recurring (hi : 0 < i) (hpast : ∀ op ∈ past, op.Fair c) :
    ∃ (n : ℕ) (r : K), 0 < r ∧ r ≤ i
      ∧ (⟨c, i, i⟩ : ScheduledCall κ K).after? past = some ⟨c, r, i⟩
      ∧ ((q.withEntry ⟨c, i, i⟩).reportsFrom past).count c = (q.reportsFrom past).count c + n
      ∧ n * i + (i - r) ≤ total past := by
  induction past using List.reverseRecOn with
  | nil =>
      refine ⟨0, i, hi, le_rfl, rfl, rfl, ?_⟩
      rw [total, List.map_nil, List.sum_nil, Nat.cast_zero, zero_mul, zero_add, sub_self]
  | append_singleton past op ih =>
      rw [List.forall_mem_append, List.forall_mem_singleton] at hpast
      obtain ⟨hbefore, hop⟩ := hpast
      obtain ⟨n, r, hr, hri, hleft, hcount, htime⟩ := ih hbefore
      rw [total_append, ScheduledCall.after?_append, hleft, Option.bind_some]
      obtain ⟨dt, rfl, hdt⟩ | ⟨hdelta, -, hreports, hkeep⟩ := hop.cases
      · rw [keep?_recurring hi]
        show ∃ (m : ℕ) (r' : K), _ ∧ _ ∧ _ ∧ _ ∧ _ ≤ total past + dt
        have hnext := count_advance (e := ⟨c, i, i⟩) dt hcount
        have hdue := reported_recurring hleft dt
        by_cases hnow : r ≤ dt
        · rw [if_pos hnow]
          rw [if_pos (hdue.2 hnow)] at hnext
          refine ⟨n + 1, i, hi, le_rfl, rfl, hnext, ?_⟩
          rw [Nat.cast_succ, sub_self, add_zero, add_mul, one_mul]
          linarith
        · rw [if_neg hnow]
          rw [if_neg fun hyes => hnow (hdue.1 hyes)] at hnext
          exact ⟨n, r - dt, by linarith, by linarith, rfl, hnext, by linarith⟩
      · refine ⟨n, r, hr, hri, hkeep _ rfl, ?_, ?_⟩
        · exact count_idle (e := ⟨c, i, i⟩) hreports hcount
        · rw [hdelta, add_zero]
          exact htime

/-- Where every advance is by the `k`-th part of the interval, `b` of `k` parts have
passed since the last of `a` answers. -/
theorem count_even {k : ℕ} (hk : 0 < k) (hi : 0 < i) (hpast : ∀ op ∈ past, op.Fair c)
    (heven : ∀ dt, .advance dt ∈ past → dt = i / k) :
    ∃ a b : ℕ, past.countP Op.isAdvance = k * a + b ∧ b < k
      ∧ (⟨c, i, i⟩ : ScheduledCall κ K).after? past = some ⟨c, i - b * (i / k), i⟩
      ∧ ((q.withEntry ⟨c, i, i⟩).reportsFrom past).count c
        = (q.reportsFrom past).count c + a := by
  have hkK : (0 : K) < k := Nat.cast_pos.2 hk
  induction past using List.reverseRecOn with
  | nil => exact ⟨0, 0, rfl, hk, by rw [Nat.cast_zero, zero_mul, sub_zero]; rfl, rfl⟩
  | append_singleton past op ih =>
      rw [List.forall_mem_append, List.forall_mem_singleton] at hpast
      obtain ⟨hbefore, hop⟩ := hpast
      obtain ⟨a, b, hadvances, hb, hleft, hcount⟩ :=
        ih hbefore fun dt hdt => heven dt (List.mem_append_left _ hdt)
      rw [List.countP_append, hadvances, ScheduledCall.after?_append, hleft, Option.bind_some]
      obtain ⟨dt, rfl, -⟩ | ⟨-, hidle, hreports, hkeep⟩ := hop.cases
      · have hdt : dt = i / k := heven dt List.mem_concat_self
        have hnext := count_advance (e := ⟨c, i, i⟩) dt hcount
        have hdue := reported_recurring hleft dt
        have hpart : 0 < i / k := div_pos hi hkK
        -- the parts that are left are a whole number of parts
        have hparts : i - b * (i / k) = (k - b : ℕ) * (i / k) := by
          rw [Nat.cast_sub hb.le, sub_mul, mul_div_cancel₀ i hkK.ne']
        rw [keep?_recurring hi, hdt]
        rw [hdt] at hnext hdue
        by_cases hlast : b + 1 = k
        · have hnow : i - b * (i / k) ≤ i / k := by
            have hone : k - b = 1 := by omega
            rw [hparts, hone, Nat.cast_one, one_mul]
          rw [if_pos hnow]
          rw [if_pos (hdue.2 hnow)] at hnext
          refine ⟨a + 1, 0, ?_, hk, ?_, hnext⟩
          · show k * a + b + 1 = _
            rw [Nat.mul_succ, ← hlast]
            rfl
          · rw [Nat.cast_zero, zero_mul, sub_zero]
        · have hnot : ¬i - b * (i / k) ≤ i / k := by
            have htwo : (2 : K) ≤ (k - b : ℕ) := by
              exact_mod_cast (by omega : 2 ≤ k - b)
            rw [hparts]
            nlinarith
          rw [if_neg hnot]
          rw [if_neg fun hyes => hnot (hdue.1 hyes)] at hnext
          refine ⟨a, b + 1, rfl, by omega, ?_, hnext⟩
          rw [Nat.cast_succ, add_mul, one_mul, sub_sub]
      · refine ⟨a, b, ?_, hb, hkeep _ rfl, ?_⟩
        · rw [List.countP_singleton, hidle]
          rfl
        · exact count_idle (e := ⟨c, i, i⟩) hreports hcount

end Counts

-- ============================================================= the result

/-- The clock `r`, which has one call more than `q`, calls it once, when the time
since it was scheduled has reached `delay`. -/
structure CallsOnce (q r : Clock κ K) (c : κ) (delay : K) : Prop where
  /-- The advance that answers is the one in which the sum of the deltas reaches
  the delay. -/
  answers : ∀ past dt, (∀ op ∈ past, op.Fair c) → 0 ≤ dt →
    (Answers q r c past dt ↔ total past < delay ∧ delay ≤ total past + dt)
  /-- All other advances answer nothing for it. -/
  silent : ∀ past dt, (∀ op ∈ past, op.Fair c) → 0 ≤ dt → ¬Answers q r c past dt →
    Silent q r past dt
  /-- Along a run it is answered once if its delay has passed, and else never. -/
  count : ∀ ops, (∀ op ∈ ops, op.Fair c) →
    (r.reportsFrom ops).count c
      = (q.reportsFrom ops).count c + if delay ≤ total ops then 1 else 0

/-- The clock `r`, which has one recurring call more than `q`, calls it whenever the
time since it was called or scheduled has reached `interval`. -/
structure CallsRepeatedly (q r : Clock κ K) (c : κ) (interval : K) : Prop where
  /-- An advance answers once for it, or not at all. -/
  once : ∀ past dt, (∀ op ∈ past, op.Fair c) → 0 ≤ dt →
    Answers q r c past dt ∨ Silent q r past dt
  /-- After its scheduling, or an advance that answered it, and operations of which
  none did, an advance answers it if with it the sum of the deltas since then
  reaches the interval. -/
  since : ∀ old recent dt, (∀ op ∈ old ++ recent, op.Fair c) → 0 ≤ dt →
    (old = [] ∨ ∃ past last, old = past ++ [.advance last] ∧ Answers q r c past last) →
    (∀ before x behind, recent = before ++ .advance x :: behind →
      ¬Answers q r c (old ++ before) x) →
    (Answers q r c (old ++ recent) dt ↔ interval ≤ total recent + dt)
  /-- Along a run it is answered as often as its interval goes into the time that
  passed, at most. -/
  count : ∀ ops, (∀ op ∈ ops, op.Fair c) →
    ∃ n : ℕ, (r.reportsFrom ops).count c = (q.reportsFrom ops).count c + n
      ∧ (n : ℤ) ≤ ⌊total ops / interval⌋
  /-- Where every advance is by the `k`-th part of the interval, every `k`-th one
  answers. -/
  even : ∀ (k : ℕ) ops, 0 < k → (∀ op ∈ ops, op.Fair c) →
    (∀ dt, .advance dt ∈ ops → dt = interval / k) →
    (r.reportsFrom ops).count c
      = (q.reportsFrom ops).count c + ops.countP Op.isAdvance / k

theorem callsOnce_withEntry (q : Clock κ K) (c : κ) {d : K} (hd : 0 < d) :
    CallsOnce q (q.withEntry ⟨c, d, 0.0⟩) c d := by
  constructor
  case answers =>
    intro past dt hpast _
    exact (answers_iff (e := ⟨c, d, 0.0⟩)).trans (reported_once hd hpast dt)
  case silent =>
    intro past dt _ _ hno
    exact silent_of_not_reported fun hyes => hno (answers_iff (e := ⟨c, d, 0.0⟩).2 hyes)
  case count => exact fun ops hops => count_once hd hops

theorem callsRepeatedly_withEntry (q : Clock κ K) (c : κ) {i : K} (hi : 0 < i) :
    CallsRepeatedly q (q.withEntry ⟨c, i, i⟩) c i := by
  have hanswers : ∀ past dt, Answers q (q.withEntry ⟨c, i, i⟩) c past dt
      ↔ (⟨c, i, i⟩ : ScheduledCall κ K).reported past dt = true :=
    fun past dt => answers_iff
  constructor
  case once =>
    intro past dt _ _
    by_cases hyes : (⟨c, i, i⟩ : ScheduledCall κ K).reported past dt = true
    · exact .inl ((hanswers past dt).2 hyes)
    · exact .inr (silent_of_not_reported hyes)
  case since =>
    intro old recent dt hops _ hold hnone
    have hfair : ∀ op ∈ recent, op.Fair c := fun o ho => hops o (List.mem_append_right _ ho)
    have harmed : (⟨c, i, i⟩ : ScheduledCall κ K).after? old = some ⟨c, i, i⟩ := by
      rcases hold with rfl | ⟨past, last, rfl, hlast⟩
      · rfl
      · refine after?_answered hi (fun o ho => hops o ?_) ((hanswers past last).1 hlast)
        exact List.mem_append_left _ (List.mem_append_left _ ho)
    have hleft := after?_unanswered hi hfair harmed fun before x behind hsplit hyes =>
      hnone before x behind hsplit ((hanswers _ x).2 hyes)
    rw [hanswers, reported_recurring hleft, sub_le_iff_le_add']
  case count =>
    intro ops hops
    obtain ⟨n, r, -, hri, -, hcount, htime⟩ := count_recurring (q := q) hi hops
    refine ⟨n, hcount, Int.le_floor.2 ?_⟩
    rw [Int.cast_natCast, le_div_iff₀ hi]
    linarith
  case even =>
    intro k ops hk hops heven
    obtain ⟨a, b, hadvances, hb, -, hcount⟩ := count_even (q := q) hk hi hops heven
    rw [hcount, hadvances, Nat.mul_add_div hk, Nat.div_eq_of_lt hb, Nat.add_zero]

/-- In exact time, on every clock: a call that is scheduled with a delay is made in
the advance in which the time since then reaches the delay, and a recurring one
whenever the time since it was made last reaches its interval, whatever else is
scheduled and unscheduled meanwhile. -/
theorem calls_come_when_their_time_has_passed (q : Clock κ K) (c : κ) {x : K} (hx : 0 < x) :
    (∃ r, q.schedule c x = .ok r ∧ CallsOnce q r c x)
      ∧ (∃ r, q.scheduleUnique c x = .ok r ∧ CallsOnce (q.unschedule c) r c x)
      ∧ ∃ r, q.scheduleInterval c x = .ok r ∧ CallsRepeatedly q r c x := by
  have hdelay : ∀ what, ensurePositive what x = .ok x :=
    ensurePositive_of_isDelay ((isDelay_exact x).2 hx)
  refine ⟨⟨q.withEntry ⟨c, x, 0.0⟩, ?_, callsOnce_withEntry q c hx⟩,
    ⟨(q.unschedule c).withEntry ⟨c, x, 0.0⟩, ?_, callsOnce_withEntry (q.unschedule c) c hx⟩,
    ⟨q.withEntry ⟨c, x, x⟩, ?_, callsRepeatedly_withEntry q c hx⟩⟩
  · unfold schedule
    rw [hdelay]
    rfl
  · unfold scheduleUnique
    rw [hdelay]
    rfl
  · unfold scheduleInterval
    rw [hdelay]
    rfl

/-- On a clock that counts in rational numbers, a call after a second is made by the
second of two advances by half a second, and one every second is made twice in
five of them. -/
theorem half_seconds_make_a_call : (0 : ℚ) < 1
    ∧ (∃ r, (empty : Clock ℕ ℚ).schedule 7 1 = .ok r
      ∧ ¬Answers empty r 7 [] (1 / 2) ∧ Answers empty r 7 [.advance (1 / 2)] (1 / 2))
    ∧ ∃ r, (empty : Clock ℕ ℚ).scheduleInterval 7 1 = .ok r
      ∧ (r.reportsFrom (List.replicate 5 (.advance (1 / 2)))).count 7
        = ((empty : Clock ℕ ℚ).reportsFrom (List.replicate 5 (.advance (1 / 2)))).count 7 + 2 := by
  have hone : (0 : ℚ) < 1 := by norm_num
  obtain ⟨⟨r, hr, honce⟩, -, ⟨t, ht, hmany⟩⟩ :=
    calls_come_when_their_time_has_passed (empty : Clock ℕ ℚ) 7 hone
  refine ⟨hone, ⟨r, hr, ?_, ?_⟩, t, ht, ?_⟩
  · rw [honce.answers [] (1 / 2) (by simp) (by norm_num)]
    norm_num [total]
  · rw [honce.answers [.advance (1 / 2)] (1 / 2) (by simp [Op.Fair]) (by norm_num)]
    norm_num [total, Op.delta]
  · refine hmany.even 2 _ (by norm_num) (fun op hop => ?_) fun dt hdt => ?_
    · rw [List.eq_of_mem_replicate hop]
      show (0 : ℚ) ≤ 1 / 2
      norm_num
    · rw [Op.advance.inj (List.eq_of_mem_replicate hdt), Nat.cast_ofNat]

end Stagecraft.Clock
