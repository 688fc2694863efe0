/-
Whether the demonstration says that its animation is complete.

The duration of the animation is nine tenths of the run, in seconds of the
program: it comes from the time of a frame, which has no scale. But the
animation is moved on by the scaled deltas of the frames. So it is past its
duration in the first frame whose number, at the scale of the configuration,
exceeds nine tenths of the number of frames. There is such a frame among them
exactly if the scale is above nine tenths.

# The invariant

Along the run a game is `Underway`: its queues are those that it began with,
and the tween has moved by the same step in each frame. Where the tween is
tells whether it has arrived, so the state has only the number of frames
and the frame of the arrival, and one frame takes both to those of the next
(`Underway.tick`).
-/
import Stagecraft.Proofs.Tweens.Course
import Stagecraft.Proofs.Demo.Said
import Stagecraft.Proofs.Demo.Scene

namespace Stagecraft

variable {K : Type} [Field K] [LinearOrder K] [FloorRing K] [Curves K]

/-- The scaled seconds of a frame. -/
def Config.pace (c : Config K) : K := c.frameTime * c.timeScale

namespace Demo

-- =========================================================== the invariant

/-- Whether a number of frames is more than a duration. -/
def Past (c : Config K) (duration : K) (frames : Nat) : Prop := duration < frames * c.pace

instance (c : Config K) (duration : K) (frames : Nat) : Decidable (Past c duration frames) :=
  inferInstanceAs (Decidable (_ < _))

/-- What has been said of the completion, if the actor arrived in that frame. -/
def told : Option Nat → List Completion
  | none => []
  | some k => [.arrived k, .announced ⟨0⟩]

/-- What is left of the tween after a number of frames. -/
def left? (c : Config K) (t : Tween Cue K) (frames : Nat) : Option Nat → Option (Tween Cue K)
  | none => some (t.at (frames * c.pace))
  | some _ => none

/-- A demonstration after a number of frames, with the frame of the arrival. -/
structure Underway (c : Config K) (t : Tween Cue K) (before : List Completion)
    (arrival? : Option Nat) (frames : Nat) (g : Game Cue (Record K) K) : Prop where
  awake : g.paused = false
  config : ∃ marked, g.world.config = some ⟨c, marked⟩
  timeScale : g.world.time.timeScale = c.timeScale
  frameCount : g.world.time.frameCount = frames
  reports : ReportsOnly g.world
  tweens : g.world.tweens = some (tweens (left? c t frames arrival?))
  actor : g.world.stage.HasActor t.target
  said : completions g.world.host = before ++ told arrival?
  early : arrival? = none → ¬Past c t.duration frames

variable {c : Config K} {t : Tween Cue K} {before : List Completion} {arrival? : Option Nat}
  {frames : Nat} {g : Game Cue (Record K) K}

theorem isDone_at (htracks : t.tracks.isEmpty = false) (elapsed : K) :
    (t.at elapsed).isDone = decide (t.duration < elapsed) :=
  Tween.isDone_eq (t := t.at elapsed) htracks

/-- The frame of the arrival, when there is one frame more. -/
def next? (c : Config K) (t : Tween Cue K) (frames : Nat) (arrival? : Option Nat) : Option Nat :=
  arrival?.or (if Past c t.duration (frames + 1) then some (frames + 1) else none)

/-- The pass over the tweens takes the tween one step on, or says that it arrived. -/
theorem updateTweens_underway (htracks : t.tracks.isEmpty = false)
    (hcue : t.onComplete = some .arrived) {v : World Cue (Record K) K}
    (htweens : v.tweens = some (tweens (left? c t frames arrival?)))
    (hdelta : v.time.delta = c.pace) (hcount : v.time.frameCount = frames + 1)
    (hearly : arrival? = none → ¬Past c t.duration frames) :
    ∃ cs, Tells cs v.moved (v.updateTweens handlers)
      ∧ v.moved.tweens = some (tweens (left? c t (frames + 1) (next? c t frames arrival?)))
      ∧ told arrival? ++ cs = told (next? c t frames arrival?) := by
  cases arrival? with
  | some k =>
      obtain ⟨htells, hleft⟩ := updateTweens_after htweens
      exact ⟨[], htells, hleft, List.append_nil _⟩
  | none =>
      have hmoved : (t.at (frames * c.pace)).moved v.time.delta
          = t.at ((frames + 1 : Nat) * c.pace) := by
        rw [hdelta, Nat.cast_succ, add_one_mul]
        rfl
      have hlive : (t.at (frames * c.pace)).isDone = false :=
        (isDone_at htracks _).trans (decide_eq_false (hearly rfl))
      have hdone := isDone_at htracks ((frames + 1 : Nat) * c.pace)
      rw [← hmoved] at hdone
      unfold next?
      by_cases hpast : Past c t.duration (frames + 1)
      · obtain ⟨htells, hleft⟩ := updateTweens_past htweens hlive
          (hdone.trans (decide_eq_true hpast)) hcue
        rw [if_pos hpast]
        rw [hcount] at htells
        exact ⟨_, htells, hleft, rfl⟩
      · obtain ⟨htells, hleft⟩ := updateTweens_on htweens hlive
          (hdone.trans (decide_eq_false hpast))
        rw [if_neg hpast]
        rw [hmoved] at hleft
        exact ⟨[], htells, hleft, rfl⟩

variable [IsStrictOrderedRing K]

omit [Curves K] in
theorem frameTime_pos (c : Config K) : 0 < c.frameTime := by
  have hrate : 0 < ((max c.targetFps.toNat 1 : Nat) : K) :=
    Nat.cast_pos.2 (Nat.lt_of_lt_of_le Nat.one_pos (le_max_right _ _))
  show 0 < (1.0 : K) / ((max c.targetFps.toNat 1 : Nat) : K)
  rw [Scalar.one_exact]
  exact one_div_pos.2 hrate

/-- The world of a demonstration between the two passes of a frame. -/
structure Between (c : Config K) (frames : Nat) (w v : World Cue (Record K) K) : Prop where
  config : v.config = some ⟨c, false⟩
  timeScale : v.time.timeScale = c.timeScale
  frameCount : v.time.frameCount = frames + 1
  delta : v.time.delta = c.pace
  reports : ReportsOnly v
  tweens : v.tweens = w.tweens
  stage : v.stage = w.stage
  said : completions v.host = completions w.host

/-- The beginning of a frame and its pass over the clock leave the tween where it is. -/
theorem Underway.between (h : Underway c t before arrival? frames g) :
    Between c frames g.world ((g.begun c.frameTime).updateClock handlers) := by
  obtain ⟨marked, hconfig⟩ := h.config
  obtain ⟨hstage, hclock, htweens, hdelta⟩ := g.begun_parts c.frameTime
  obtain ⟨hseen, hscale⟩ := g.config_begun c.frameTime hconfig
  have htime := g.time_begun c.frameTime
  have hreports : ReportsOnly (g.begun c.frameTime) := h.reports.of_clock hclock
  have hpass := hreports.updateClock
  constructor
  case config => exact hpass.config.trans hseen
  case timeScale =>
    rw [hpass.time]
    refine hscale.trans ?_
    split
    · rfl
    · exact h.timeScale
  case frameCount =>
    rw [hpass.time]
    exact (congrArg WorldTime.frameCount htime).trans (congrArg (· + 1) h.frameCount)
  case delta =>
    rw [hpass.time]
    refine hdelta.trans ?_
    unfold Game.delta Config.pace
    have hdt : (0.0 : K) ≤ c.frameTime := by
      rw [Scalar.zero_exact]
      exact (frameTime_pos c).le
    rw [h.awake, h.timeScale]
    simp only [Bool.false_eq_true, if_false, if_pos hdt]
  case reports => exact hreports.counted.of_clock hpass.clock
  case tweens => exact hpass.tweens.trans htweens
  case stage => exact hpass.stage.trans hstage
  case said =>
    rw [hpass.said, List.append_nil]
    exact completions_begun g c.frameTime

/-- One frame more. -/
theorem Underway.tick (htracks : t.tracks.isEmpty = false) (hcue : t.onComplete = some .arrived)
    (h : Underway c t before arrival? frames g) :
    Underway c t before (next? c t frames arrival?) (frames + 1)
      (g.tick handlers c.frameTime) := by
  have hbetween := h.between
  obtain ⟨cs, htells, hleft, htold⟩ := updateTweens_underway htracks hcue
    (hbetween.tweens.trans h.tweens) hbetween.delta hbetween.frameCount h.early
  rw [← Game.world_tick] at htells
  constructor
  case awake => exact h.awake
  case config => exact ⟨false, htells.config.trans hbetween.config⟩
  case timeScale => rw [htells.time]; exact hbetween.timeScale
  case frameCount => rw [htells.time]; exact hbetween.frameCount
  case reports => exact hbetween.reports.of_clock htells.clock
  case tweens => exact htells.tweens.trans hleft
  case actor =>
    rw [htells.stage]
    refine Stage.HasActor.played ?_ _ _
    rw [hbetween.stage]
    exact h.actor
  case said =>
    rw [htells.said, ← htold, ← List.append_assoc, ← h.said]
    exact congrArg (· ++ cs) hbetween.said
  case early =>
    unfold next?
    intro hnone
    obtain ⟨-, hsome⟩ := Option.or_eq_none_iff.1 hnone
    intro hpast
    rw [if_pos hpast] at hsome
    cases hsome

/-- As many frames more as there are. -/
theorem Underway.ticks (htracks : t.tracks.isEmpty = false) (hcue : t.onComplete = some .arrived)
    (h : Underway c t before arrival? frames g) (n : Nat) :
    Underway c t before
      (arrival?.or ((List.range' (frames + 1) n).find? fun k => decide (Past c t.duration k)))
      (frames + n) (g.ticks handlers c.frameTime n) := by
  induction n generalizing arrival? frames g with
  | zero =>
      rw [List.range'_zero, List.find?_nil, Option.or_none]
      exact h
  | succ n ih =>
      have harrival : (next? c t frames arrival?).or
            ((List.range' (frames + 1 + 1) n).find? fun k => decide (Past c t.duration k))
          = arrival?.or
              ((List.range' (frames + 1) (n + 1)).find? fun k => decide (Past c t.duration k)) := by
        unfold next?
        rw [Option.or_assoc, List.range'_succ, List.find?_cons]
        by_cases hpast : Past c t.duration (frames + 1) <;> simp [hpast]
      have hrest := ih (h.tick htracks hcue)
      rw [harrival, Nat.add_assoc, Nat.add_comm 1] at hrest
      exact hrest

-- =========================================================== the beginning

/-- The tween that takes the actor across the window while it turns once. -/
def crossing (c : Config K) (s : Stage K) (p : PuppetId) (easing : Easing) (frames : Nat) :
    Tween Cue K :=
  { target := p
    tracks := Tween.trackAll (s.attr? p)
      [("posx", .scalar ((c.width.toNat : Nat) : K)), ("angle", .scalar 360.0)]
    elapsed := 0.0, duration := duration c.frameTime frames, easing
    onComplete := some .arrived }

/-- The world with a first tween. -/
def queued (w : World Cue (Record K) K) (t : Tween Cue K) : World Cue (Record K) K :=
  { w with tweens := some (tweens (some t)) }.note (.tweenQueued ⟨0⟩ t.duration)

/-- The world with a first report that waits. -/
def waiting (w : World Cue (Record K) K) (p : PuppetId) : World Cue (Record K) K :=
  { w with clock := some ⟨[⟨Cue.report p, 0.5, 0.5⟩]⟩ }.note (.callRepeated (.report p) 0.5)

theorem duration_pos (c : Config K) (frames : Nat) : 0 < duration c.frameTime frames := by
  have hframes : (0 : K) < ((max frames 1 : Nat) : K) :=
    Nat.cast_pos.2 (Nat.lt_of_lt_of_le Nat.one_pos (le_max_right _ _))
  exact mul_pos (mul_pos (frameTime_pos c) hframes) (by norm_num)

omit [IsStrictOrderedRing K] in
theorem animateTween_eq {w : World Cue (Record K) K} (hw : w.tweens = some .empty)
    (hlive : t.isDone = false) : w.animateTween t = (some ⟨0⟩, queued w t) := by
  unfold World.animateTween World.pushTween World.tweensOrNew
  rw [hlive, hw]
  rfl

omit [Curves K] in
theorem scheduleInterval_eq {w : World Cue (Record K) K} (hw : w.clock = some .empty)
    (p : PuppetId) : w.scheduleInterval (.report p) 0.5 = (.ok (), waiting w p) := by
  unfold World.scheduleInterval World.editClock World.clockOrNew
  rw [hw]
  dsimp only [Option.getD_some]
  unfold Clock.scheduleInterval
  rw [ensurePositive_of_isDelay ((isDelay_exact _).2 (by norm_num))]
  rfl

/-- The demonstration begins with one tween and one report. -/
theorem begin_ok {p : PuppetId} (h : Fresh c g) (hactor : g.world.stage.HasActor p)
    (easing : Easing) (frames : Nat) : ∃ t g', begin g p easing frames = .ok g'
      ∧ t.tracks.isEmpty = false ∧ t.onComplete = some .arrived ∧ t.target = p
      ∧ t.duration = duration c.frameTime frames
      ∧ Underway c t (completions g.world.host) none 0 g' := by
  obtain ⟨marked, hconfig⟩ := h.config
  have hc : g.config = c := config_eq hconfig
  generalize ht : crossing c g.world.stage p easing frames = t
  have htracks : t.tracks.isEmpty = false := ht ▸ isEmpty_trackAll hactor _ _
  have hduration : t.duration = duration c.frameTime frames := ht ▸ rfl
  have hstart : t = t.at ((0 : Nat) * c.pace) := by
    rw [Nat.cast_zero, zero_mul, ← Scalar.zero_exact, ← ht]
    rfl
  have hearly : ¬Past c t.duration 0 := by
    unfold Past
    rw [Nat.cast_zero, zero_mul, not_lt, hduration]
    exact (duration_pos c frames).le
  have hlive : t.isDone = false := by
    rw [hstart]
    exact (isDone_at htracks _).trans (decide_eq_false hearly)
  have hbegin : begin g p easing frames
      = .ok { g with world := waiting (queued g.world t) p } := by
    unfold begin Tween.new
    rw [hc, ensurePositive_of_isDelay ((isDelay_exact _).2 (duration_pos c frames))]
    show (((g.world.animateTween (crossing c g.world.stage p easing frames)).2.scheduleInterval
      (.report p) 0.5).1.bind fun _ => .ok { g with
        world := ((g.world.animateTween
          (crossing c g.world.stage p easing frames)).2.scheduleInterval (.report p) 0.5).2 }) = _
    rw [ht, animateTween_eq h.tweens hlive, scheduleInterval_eq (w := queued g.world t) h.clock]
    rfl
  refine ⟨t, _, hbegin, htracks, ht ▸ rfl, ht ▸ rfl, hduration, ?_⟩
  constructor
  case awake => exact h.awake
  case config => exact ⟨marked, hconfig⟩
  case timeScale => exact congrArg WorldTime.timeScale h.time
  case frameCount => exact congrArg WorldTime.frameCount h.time
  case reports =>
    intro e he
    rw [List.mem_singleton.1 he]
    exact ⟨p, rfl⟩
  case tweens => exact congrArg (fun t => some (tweens (some t))) hstart
  case actor => exact ht ▸ hactor
  case said =>
    have hqueued : completions (waiting (queued g.world t) p).host = completions g.world.host :=
      (completions_note _ _).trans (completions_note _ _)
    exact hqueued.trans (List.append_nil _).symm
  case early => exact fun _ => hearly

-- ============================================================= the arrival

/-- The first frame of a run in which the scaled frames so far are more than the
duration. -/
def firstPast? (c : Config K) (n : Nat) : Option Nat :=
  (List.range' 1 n).find? fun k => decide (Past c (duration c.frameTime n) k)

/-- The time of a frame does not count: both sides have it as a factor. -/
theorem past_iff (c : Config K) {n : Nat} (hn : 1 ≤ n) (k : Nat) :
    Past c (duration c.frameTime n) k ↔ 9 * (n : K) < 10 * (k * c.timeScale) := by
  have htenth : 0 < c.frameTime / 10 := div_pos (frameTime_pos c) (by norm_num)
  have hduration : duration c.frameTime n = c.frameTime / 10 * (9 * (n : K)) := by
    unfold duration
    rw [max_eq_left hn]
    ring
  have hpace : (k : K) * c.pace = c.frameTime / 10 * (10 * (k * c.timeScale)) := by
    unfold Config.pace
    ring
  unfold Past
  rw [hduration, hpace, mul_lt_mul_iff_right₀ htenth]

/-- Above nine tenths the actor arrives in the first frame whose number, at the scale,
exceeds nine tenths of all. -/
theorem firstPast?_of_fast {n : Nat} (hn : 1 ≤ n) (hfast : 9 / 10 < c.timeScale) :
    firstPast? c n = some (⌊9 * (n : K) / (10 * c.timeScale)⌋₊ + 1)
      ∧ ⌊9 * (n : K) / (10 * c.timeScale)⌋₊ + 1 ≤ n := by
  have hscale : 0 < c.timeScale := lt_trans (by norm_num) hfast
  have hratio : 0 ≤ 9 * (n : K) / (10 * c.timeScale) := by positivity
  have hpast : ∀ k : Nat, Past c (duration c.frameTime n) k
      ↔ ⌊9 * (n : K) / (10 * c.timeScale)⌋₊ + 1 ≤ k := by
    intro k
    rw [past_iff c hn, Nat.succ_le_iff, Nat.floor_lt hratio, div_lt_iff₀ (by positivity)]
    ring_nf
  have hlast : ⌊9 * (n : K) / (10 * c.timeScale)⌋₊ + 1 ≤ n := by
    rw [← hpast, past_iff c hn]
    have hmore := mul_lt_mul_of_pos_left hfast (Nat.cast_pos.2 hn : (0 : K) < n)
    linarith
  refine ⟨?_, hlast⟩
  unfold firstPast?
  rw [List.find?_range'_eq_some]
  refine ⟨decide_eq_true ((hpast _).2 le_rfl), ?_, fun k _ hk => ?_⟩
  · rw [List.mem_range'_1]
    omega
  · rw [Bool.not_eq_true', decide_eq_false_iff_not, hpast]
    omega

/-- At nine tenths or less no frame of the run is late enough. -/
theorem firstPast?_of_slow {n : Nat} (hn : 1 ≤ n) (hslow : c.timeScale ≤ 9 / 10) :
    firstPast? c n = none := by
  unfold firstPast?
  rw [List.find?_eq_none]
  intro k hk
  rw [decide_eq_true_iff, past_iff c hn, not_lt]
  have hkn : (k : K) ≤ n := by
    rw [List.mem_range'_1] at hk
    exact Nat.cast_le.2 (by omega)
  have hless := mul_le_mul_of_nonneg_left hslow (Nat.cast_nonneg k : (0 : K) ≤ k)
  linarith

-- ================================================================ the run

/-- A run from a game that has not begun succeeds, and tells of the arrival before its
end, if there is an arrival. -/
theorem run_ok (h : Fresh c g) (easing : Easing) (n : Nat) :
    ∃ g' body elapsed pos topLeft, run g easing n = .ok g'
      ∧ g'.world.host = body.push (.line (.summary n elapsed pos topLeft))
      ∧ completions body = completions g.world.host ++ told (firstPast? c n) := by
  obtain ⟨p, g₁, henter, hfresh, hactor, hhost⟩ := enter_ok h
  obtain ⟨t, g₂, hbegin, htracks, hcue, htarget, hduration, hunderway⟩ :=
    begin_ok hfresh hactor easing n
  have hend := hunderway.ticks htracks hcue n
  have harrival :
      ((List.range' (0 + 1) n).find? fun k => decide (Past c t.duration k)) = firstPast? c n := by
    unfold firstPast?
    rw [hduration]
  rw [Option.none_or, harrival, Nat.zero_add] at hend
  obtain ⟨marked, hconfig⟩ := hunderway.config
  have hrun : run g easing n = .ok (conclude (g₂.ticks handlers c.frameTime n) p) := by
    unfold run Game.runFrames
    rw [henter]
    simp only [bind, Except.bind]
    rw [hbegin]
    dsimp only
    rw [config_eq hconfig]
    rfl
  obtain ⟨pos, topLeft, hsummary⟩ := conclude_host (htarget ▸ hend.actor)
  rw [hend.frameCount] at hsummary
  refine ⟨_, _, _, pos, topLeft, hrun, hsummary, ?_⟩
  rw [hend.said, hhost]

/-- A run of the demonstration says that its animation is complete, and then that its
tween finished, once each before its end, if the time scale is above nine tenths, and
not at all if it is not. -/
theorem completion_is_told_above_nine_tenths (h : Fresh c g) (easing : Easing) {n : Nat}
    (hn : 1 ≤ n) :
    ∃ g' body elapsed pos topLeft, run g easing n = .ok g'
      ∧ g'.world.host = body.push (.line (.summary n elapsed pos topLeft))
      ∧ completions body = completions g.world.host
        ++ (if 9 / 10 < c.timeScale then
              [.arrived (⌊9 * (n : K) / (10 * c.timeScale)⌋₊ + 1), .announced ⟨0⟩]
            else [])
      ∧ (9 / 10 < c.timeScale → ⌊9 * (n : K) / (10 * c.timeScale)⌋₊ + 1 ≤ n) := by
  obtain ⟨g', body, elapsed, pos, topLeft, hrun, hsummary, hsaid⟩ := run_ok h easing n
  refine ⟨g', body, elapsed, pos, topLeft, hrun, hsummary, ?_, fun hfast =>
    (firstPast?_of_fast hn hfast).2⟩
  rw [hsaid]
  split
  next hfast => rw [(firstPast?_of_fast hn hfast).1]; rfl
  next hslow => rw [firstPast?_of_slow hn (not_lt.1 hslow)]; rfl

/-- Ten frames at full speed: the actor arrives in the last one. -/
theorem full_speed_is_told : ∃ g' body elapsed pos topLeft,
    run (.new (.new "") #[] : Game Cue (Record ℝ) ℝ) .linear 10 = .ok g'
      ∧ g'.world.host = body.push (.line (.summary 10 elapsed pos topLeft))
      ∧ completions body = [.arrived 10, .announced ⟨0⟩] := by
  obtain ⟨g', body, elapsed, pos, topLeft, hrun, hsummary, hsaid, -⟩ :=
    completion_is_told_above_nine_tenths (fresh_new (Config.new "" : Config ℝ) #[]) .linear
      (n := 10) (by decide)
  have hscale : (Config.new "" : Config ℝ).timeScale = 1 := by
    show (1.0 : ℝ) = 1
    norm_num
  have hfloor : ⌊9 * ((10 : Nat) : ℝ) / (10 * 1)⌋₊ = 9 := by norm_num
  have hbefore : completions (Game.new (Config.new "") #[] : Game Cue (Record ℝ) ℝ).world.host
      = [] := completions_note _ _
  rw [hscale, hfloor, hbefore, if_pos (by norm_num)] at hsaid
  exact ⟨g', body, elapsed, pos, topLeft, hrun, hsummary, hsaid⟩

/-- The configuration to start with, at half speed. -/
private noncomputable def atHalfSpeed : Config ℝ :=
  { (Config.new "" : Config ℝ) with timeScale := 1 / 2 }

/-- Ten frames at half speed: the run ends and no completion was told. -/
theorem half_speed_is_not_told :
    1 ≤ atHalfSpeed.targetFps ∧ 0 < atHalfSpeed.timeScale
      ∧ ∃ g', run (.new atHalfSpeed #[]) .linear 10 = .ok g' ∧ completions g'.world.host = [] := by
  have hrate : 1 ≤ atHalfSpeed.targetFps := by
    show (1 : UInt32) ≤ 60
    decide
  have hpos : 0 < atHalfSpeed.timeScale := by
    show (0 : ℝ) < 1 / 2
    norm_num
  have hslow : atHalfSpeed.timeScale ≤ 9 / 10 := by
    show (1 / 2 : ℝ) ≤ 9 / 10
    norm_num
  obtain ⟨g', body, elapsed, pos, topLeft, hrun, hsummary, hsaid⟩ :=
    run_ok (fresh_new atHalfSpeed #[]) .linear 10
  have hbefore : completions (Game.new atHalfSpeed #[]).world.host = [] := completions_note _ _
  rw [hbefore, firstPast?_of_slow (by decide) hslow] at hsaid
  refine ⟨hrate, hpos, g', hrun, ?_⟩
  rw [hsummary, completions_push, hsaid]
  rfl

end Demo

end Stagecraft
