/-
The curves that do not swing, in exact arithmetic.

Seven of the ten curves are put together from arches of parabolas, and what
is said of them here is said of one arch first: how steep it is, and how far
it rises. The rest is carried from piece to piece. Pieces that meet may be
joined (`SlopeIn.glue`); a curve turned by half a turn about the middle of
the way keeps its slopes (`SlopeIn.reflect`), and so does one that is run
through twice as fast and half as far (`SlopeIn.halve`). With these three
every curve comes down to an arch that starts at rest, or to the bounce.

The bounce has its breaks at 4, 8 and 10 elevenths. It is described by four
comparisons that leave each break to the piece behind it, and by four `Arc`s
that share their breaks, which is possible only because the pieces meet. A
piece that did not meet the next one would have no slope there.
-/
import Mathlib.Tactic.Ring
import Stagecraft.Proofs.Exact

namespace Stagecraft

variable {K : Type} [Field K] [LinearOrder K] [FloorRing K]

-- ================================================================ slopes

/-- From any point of the segment to any later one, the function gains at least
`low` and at most `high` for each unit of the way. -/
def SlopeIn (low high : K) (f : K → K) (a b : K) : Prop :=
  ∀ n m, a ≤ n → n ≤ m → m ≤ b → low * (m - n) ≤ f m - f n ∧ f m - f n ≤ high * (m - n)

namespace SlopeIn

variable [IsStrictOrderedRing K] {low high low' high' a b c : K} {f g : K → K}

theorem widen (h : SlopeIn low high f a b) (hlow : low' ≤ low) (hhigh : high ≤ high') :
    SlopeIn low' high' f a b := by
  intro n m hn hnm hm
  obtain ⟨hleast, hmost⟩ := h n m hn hnm hm
  have hway : 0 ≤ m - n := sub_nonneg.2 hnm
  exact ⟨(mul_le_mul_of_nonneg_right hlow hway).trans hleast,
    hmost.trans (mul_le_mul_of_nonneg_right hhigh hway)⟩

omit [IsStrictOrderedRing K] in
theorem congr (h : SlopeIn low high f a b) (heq : ∀ n, a ≤ n → n ≤ b → g n = f n) :
    SlopeIn low high g a b := by
  intro n m hn hnm hm
  rw [heq n hn (hnm.trans hm), heq m (hn.trans hnm) hm]
  exact h n m hn hnm hm

/-- Who passes the point where two segments meet gains on both. -/
theorem glue (h : SlopeIn low high f a b) (h' : SlopeIn low high f b c) :
    SlopeIn low high f a c := by
  intro n m hn hnm hm
  rcases le_total m b with hmb | hbm
  · exact h n m hn hnm hmb
  · rcases le_total b n with hbn | hnb
    · exact h' n m hbn hnm hm
    · obtain ⟨hleast, hmost⟩ := h n b hn hnb le_rfl
      obtain ⟨hleast', hmost'⟩ := h' b m le_rfl hbm hm
      constructor
      · calc low * (m - n) = low * (b - n) + low * (m - b) := by ring
          _ ≤ (f b - f n) + (f m - f b) := add_le_add hleast hleast'
          _ = f m - f n := by ring
      · calc f m - f n = (f b - f n) + (f m - f b) := by ring
          _ ≤ high * (b - n) + high * (m - b) := add_le_add hmost hmost'
          _ = high * (m - n) := by ring

/-- Half a turn about the middle of the way. -/
theorem reflect (h : SlopeIn low high f a b) :
    SlopeIn low high (fun n => 1 - f (1 - n)) (1 - b) (1 - a) := by
  intro n m hn hnm hm
  have hback := h (1 - m) (1 - n) (by linarith) (by linarith) (by linarith)
  have hway : 1 - n - (1 - m) = m - n := by ring
  have hgain : (1 - f (1 - m)) - (1 - f (1 - n)) = f (1 - n) - f (1 - m) := by ring
  rw [hway] at hback
  rw [hgain]
  exact hback

/-- Twice as fast, and half as far. -/
theorem halve (h : SlopeIn low high f 0 1) :
    SlopeIn low high (fun n => f (n * 2) / 2) 0 (1 / 2) := by
  intro n m hn hnm hm
  obtain ⟨hleast, hmost⟩ := h (n * 2) (m * 2) (by linarith) (by linarith) (by linarith)
  have hway : m * 2 - n * 2 = 2 * (m - n) := by ring
  have hgain : f (m * 2) / 2 - f (n * 2) / 2 = (f (m * 2) - f (n * 2)) / 2 := by ring
  rw [hway] at hleast hmost
  rw [hgain]
  constructor
  · linarith
  · linarith

/-- Slopes up and down are bounded alike. -/
theorem abs_sub_le (h : SlopeIn (-high) high f a b) {n m : K} (hn : n ∈ Set.Icc a b)
    (hm : m ∈ Set.Icc a b) : |f n - f m| ≤ high * |n - m| := by
  have hordered {n m : K} (hn : a ≤ n) (hnm : n ≤ m) (hm : m ≤ b) :
      |f n - f m| ≤ high * |n - m| := by
    obtain ⟨hleast, hmost⟩ := h n m hn hnm hm
    rw [abs_sub_comm, abs_sub_comm n m, abs_of_nonneg (sub_nonneg.2 hnm), abs_le]
    exact ⟨(neg_mul high (m - n)).symm.trans_le hleast, hmost⟩
  rcases le_total n m with hnm | hmn
  · exact hordered hn.1 hnm hm.2
  · rw [abs_sub_comm, abs_sub_comm n m]
    exact hordered hm.1 hmn hn.2

/-- What never falls gains on the way. -/
theorem le (h : SlopeIn 0 high f a b) {n m : K} (hn : a ≤ n) (hnm : n ≤ m) (hm : m ≤ b) :
    f n ≤ f m := by
  obtain ⟨hleast, -⟩ := h n m hn hnm hm
  rw [zero_mul] at hleast
  exact sub_nonneg.1 hleast

end SlopeIn

namespace Easing

-- =============================================================== arches

/-- A parabola that opens upwards by `k`, with its lowest point at `(c, d)`. -/
def arch (k c d n : K) : K := k * (n - c) * (n - c) + d

section Arch

variable [IsStrictOrderedRing K] {k c d r n : K}

/-- An arch is steepest where it is farthest from its lowest point. -/
theorem slopeIn_arch (hk : 0 ≤ k) (c d a b : K) :
    SlopeIn (2 * k * (a - c)) (2 * k * (b - c)) (arch k c d) a b := by
  intro n m hn hnm hm
  have hgain : arch k c d m - arch k c d n = k * (m - n) * ((n - c) + (m - c)) := by
    unfold arch
    ring
  have hscale : 0 ≤ k * (m - n) := mul_nonneg hk (sub_nonneg.2 hnm)
  rw [hgain]
  constructor
  · calc 2 * k * (a - c) * (m - n) = k * (m - n) * ((a - c) + (a - c)) := by ring
      _ ≤ k * (m - n) * ((n - c) + (m - c)) := by
        refine mul_le_mul_of_nonneg_left ?_ hscale
        linarith
  · calc k * (m - n) * ((n - c) + (m - c)) ≤ k * (m - n) * ((b - c) + (b - c)) := by
          refine mul_le_mul_of_nonneg_left ?_ hscale
          linarith
      _ = 2 * k * (b - c) * (m - n) := by ring

/-- Within `r` of its lowest point an arch is no higher than there at `r`. -/
theorem arch_mem (hk : 0 ≤ k) (hr : |n - c| ≤ r) :
    d ≤ arch k c d n ∧ arch k c d n ≤ k * r * r + d := by
  have hsquare : (n - c) * (n - c) ≤ r * r := by
    rw [← abs_mul_abs_self (n - c)]
    exact mul_self_le_mul_self (abs_nonneg _) hr
  unfold arch
  rw [mul_assoc, mul_assoc]
  constructor
  · exact le_add_of_nonneg_left (mul_nonneg hk (mul_self_nonneg _))
  · exact add_le_add_left (mul_le_mul_of_nonneg_left hsquare hk) d

omit [IsStrictOrderedRing K] in
theorem arch_half : arch 2 0 0 (1 / 2 : K) = 1 / 2 := by norm_num [arch]

end Arch

-- ============================================================ the bounce

theorem outBounce_eq (n : K) :
    outBounce n
      = if n < 4 / 11 then arch (121 / 16) 0 0 n
        else if n < 8 / 11 then arch (121 / 16) (6 / 11) (3 / 4) n
        else if n < 10 / 11 then arch (121 / 16) (9 / 11) (15 / 16) n
        else arch (121 / 16) (21 / 22) (63 / 64) n := by
  unfold outBounce arch
  norm_num

theorem inBounce_eq (n : K) : inBounce n = 1 - outBounce (1 - n) := by
  unfold inBounce
  norm_num

/-- From `a` to `b` the bounce is the arch with its lowest point at `(c, d)`, which is
`r` away from neither end, and it rises to 1 at most. -/
structure Arc (a b c d r : K) : Prop where
  eq : ∀ n, a ≤ n → n ≤ b → outBounce n = arch (121 / 16) c d n
  near : c - r ≤ a ∧ b ≤ c + r
  low : 0 ≤ d
  high : 121 / 16 * r * r + d ≤ 1
  narrow : r ≤ 4 / 11

section Bounce

variable [IsStrictOrderedRing K] {a b c d r n : K}

theorem arc_first : Arc (0 : K) (4 / 11) 0 0 (4 / 11) := by
  refine ⟨fun n _ hn => ?_, by norm_num, by norm_num, by norm_num, by norm_num⟩
  rw [outBounce_eq]
  rcases hn.lt_or_eq with hlt | rfl
  · rw [if_pos hlt]
  · norm_num [arch]

theorem arc_second : Arc (4 / 11 : K) (8 / 11) (6 / 11) (3 / 4) (2 / 11) := by
  refine ⟨fun n hn hn' => ?_, by norm_num, by norm_num, by norm_num, by norm_num⟩
  rw [outBounce_eq, if_neg (not_lt.2 hn)]
  rcases hn'.lt_or_eq with hlt | rfl
  · rw [if_pos hlt]
  · norm_num [arch]

theorem arc_third : Arc (8 / 11 : K) (10 / 11) (9 / 11) (15 / 16) (1 / 11) := by
  refine ⟨fun n hn hn' => ?_, by norm_num, by norm_num, by norm_num, by norm_num⟩
  rw [outBounce_eq, if_neg (by linarith), if_neg (not_lt.2 hn)]
  rcases hn'.lt_or_eq with hlt | rfl
  · rw [if_pos hlt]
  · norm_num [arch]

theorem arc_fourth : Arc (10 / 11 : K) 1 (21 / 22) (63 / 64) (1 / 22) := by
  refine ⟨fun n hn _ => ?_, by norm_num, by norm_num, by norm_num, by norm_num⟩
  rw [outBounce_eq, if_neg (by linarith), if_neg (by linarith), if_neg (not_lt.2 hn)]

theorem Arc.slopeIn (h : Arc a b c d r) : SlopeIn (-(11 / 2)) (11 / 2) outBounce a b := by
  obtain ⟨hfrom, hto⟩ := h.near
  have hnarrow := h.narrow
  refine ((slopeIn_arch (by norm_num) c d a b).widen ?_ ?_).congr h.eq
  · linarith
  · linarith

theorem Arc.mem (h : Arc a b c d r) (ha : a ≤ n) (hb : n ≤ b) :
    0 ≤ outBounce n ∧ outBounce n ≤ 1 := by
  obtain ⟨hfrom, hto⟩ := h.near
  have hr : |n - c| ≤ r := abs_le.2 ⟨by linarith, by linarith⟩
  obtain ⟨hleast, hmost⟩ := arch_mem (d := d) (by norm_num : (0 : K) ≤ 121 / 16) hr
  rw [h.eq n ha hb]
  exact ⟨h.low.trans hleast, hmost.trans h.high⟩

theorem slopeIn_outBounce : SlopeIn (-(11 / 2) : K) (11 / 2) outBounce 0 1 :=
  ((arc_first.slopeIn.glue arc_second.slopeIn).glue arc_third.slopeIn).glue arc_fourth.slopeIn

theorem outBounce_mem (hn : 0 ≤ n) (hn' : n ≤ 1) : 0 ≤ outBounce n ∧ outBounce n ≤ 1 := by
  rcases le_total n (4 / 11) with h | h
  · exact arc_first.mem hn h
  rcases le_total n (8 / 11) with h' | h'
  · exact arc_second.mem h h'
  rcases le_total n (10 / 11) with h'' | h''
  · exact arc_third.mem h' h''
  · exact arc_fourth.mem h'' hn'

theorem outBounce_zero : outBounce (0 : K) = 0 := by
  rw [outBounce_eq]
  norm_num [arch]

theorem outBounce_one : outBounce (1 : K) = 1 := by
  rw [outBounce_eq]
  norm_num [arch]

end Bounce

-- ============================================================= two halves

/-- A curve of two halves: the second is the first one after half a turn about the
middle. -/
def halves (g : K → K) (n : K) : K := if n < 1 - n then g n else 1 - g (1 - n)

section Halves

variable [IsStrictOrderedRing K] {g : K → K} {low high n : K}

theorem lt_one_sub_iff (n : K) : n * 2.0 < (1.0 : K) ↔ n < 1 - n := by
  norm_num
  rw [lt_sub_iff_add_lt, mul_two]

theorem halves_of_le (hg : g (1 / 2) = 1 / 2) (hn : n ≤ 1 / 2) : halves g n = g n := by
  unfold halves
  rcases hn.lt_or_eq with hlt | rfl
  · rw [if_pos (by linarith)]
  · rw [if_neg (by norm_num)]
    norm_num [hg]

/-- The halves meet in the middle, so that it is its own image. -/
theorem halves_one_sub (hg : g (1 / 2) = 1 / 2) (n : K) : halves g (1 - n) = 1 - halves g n := by
  rcases le_total n (1 / 2) with hn | hn
  · rw [halves_of_le hg hn]
    unfold halves
    rcases hn.lt_or_eq with hlt | rfl
    · rw [if_neg (by linarith), sub_sub_cancel]
    · norm_num [hg]
  · rw [halves_of_le hg (by linarith : 1 - n ≤ 1 / 2)]
    unfold halves
    rw [if_neg (by linarith), sub_sub_cancel]

theorem slopeIn_halves (hg : g (1 / 2) = 1 / 2) (h : SlopeIn low high g 0 (1 / 2)) :
    SlopeIn low high (halves g) 0 1 := by
  have hfirst : SlopeIn low high (halves g) 0 (1 / 2) := h.congr fun n _ hn => halves_of_le hg hn
  have hsecond : SlopeIn low high (halves g) (1 - 1 / 2) (1 - 0) :=
    hfirst.reflect.congr fun n _ _ => by rw [halves_one_sub hg, sub_sub_cancel]
  norm_num at hsecond
  exact hfirst.glue hsecond

theorem halves_mem (hg : ∀ n, 0 ≤ n → n ≤ 1 / 2 → 0 ≤ g n ∧ g n ≤ 1) (hn : 0 ≤ n) (hn' : n ≤ 1) :
    0 ≤ halves g n ∧ halves g n ≤ 1 := by
  unfold halves
  split
  next hlt => exact hg n hn (by linarith)
  next hle =>
      obtain ⟨hleast, hmost⟩ := hg (1 - n) (by linarith) (by linarith)
      exact ⟨by linarith, by linarith⟩

end Halves

-- ============================================================ the curves

/-- The curves with a sine, which takes them beyond both ends. -/
def isElastic : Easing → Bool
  | inElastic | outElastic | inOutElastic => true
  | _ => false

/-- The curves that never turn back. -/
def isSteady : Easing → Bool
  | linear | accelerate | decelerate | accelDecel => true
  | _ => false

section Curve

variable [Curves K]

theorem apply_accelerate (n : K) : accelerate.apply n = arch 1 0 0 n := by
  unfold apply arch
  norm_num

theorem apply_decelerate (n : K) : decelerate.apply n = 1 - accelerate.apply (1 - n) := by
  unfold apply
  norm_num
  ring

theorem apply_accelDecel [IsStrictOrderedRing K] (n : K) :
    accelDecel.apply n = halves (arch 2 0 0) n := by
  have hfirst : (0.5 : K) * (n * 2.0) * (n * 2.0) = arch 2 0 0 n := by
    norm_num [arch]
    ring
  have hsecond : -(0.5 : K) * ((n * 2.0 - 1.0) * (n * 2.0 - 1.0 - 2.0) - 1.0)
      = 1 - arch 2 0 0 (1 - n) := by
    norm_num [arch]
    ring
  have hbreak := lt_one_sub_iff n
  unfold halves
  rw [← hfirst, ← hsecond]
  exact if_congr hbreak rfl rfl

theorem apply_bounceStart (n : K) : bounceStart.apply n = 1 - bounceEnd.apply (1 - n) :=
  inBounce_eq n

theorem apply_bounceStartEnd [IsStrictOrderedRing K] (n : K) :
    bounceStartEnd.apply n = halves (fun n => bounceStart.apply (n * 2) / 2) n := by
  have hfirst : inBounce (n * 2.0) * (0.5 : K) = bounceStart.apply (n * 2) / 2 := by
    rw [div_eq_mul_one_div]
    norm_num [apply]
  have hsecond : outBounce (n * 2.0 - 1.0) * (0.5 : K) + 0.5
      = 1 - bounceStart.apply ((1 - n) * 2) / 2 := by
    have hback : 1 - (1 - n) * 2 = n * 2 - 1 := by ring
    rw [apply_bounceStart, hback]
    norm_num [apply]
    ring
  have hbreak := lt_one_sub_iff n
  unfold halves
  dsimp only
  rw [← hfirst, ← hsecond]
  exact if_congr hbreak rfl rfl

-- ======================================================== their promises

variable [IsStrictOrderedRing K] {e : Easing} {n : K}

theorem apply_bounceStart_mem (hn : 0 ≤ n) (hn' : n ≤ 1) :
    0 ≤ bounceStart.apply n ∧ bounceStart.apply n ≤ 1 := by
  obtain ⟨hleast, hmost⟩ := outBounce_mem (sub_nonneg.2 hn') (sub_le_self 1 hn)
  rw [apply_bounceStart]
  exact ⟨sub_nonneg.2 hmost, sub_le_self 1 hleast⟩

theorem apply_bounceStart_zero : bounceStart.apply (0 : K) = 0 := by
  rw [apply_bounceStart, sub_zero]
  exact sub_eq_zero.2 outBounce_one.symm

theorem apply_bounceStart_one : bounceStart.apply (1 : K) = 1 := by
  rw [apply_bounceStart, sub_self]
  exact (congrArg (1 - ·) outBounce_zero).trans (sub_zero 1)

theorem bounceStart_half : bounceStart.apply (1 / 2 * 2 : K) / 2 = 1 / 2 := by
  rw [div_mul_cancel₀ 1 two_ne_zero, apply_bounceStart_one]

theorem apply_zero (he : e.isElastic = false) : e.apply (0 : K) = 0 := by
  have haccelerate : accelerate.apply (0 : K) = 0 := mul_zero 0
  have hdecelerate : decelerate.apply (0 : K) = 0 := by
    rw [apply_decelerate, apply_accelerate]
    norm_num [arch]
  cases e with
  | linear => rfl
  | accelerate => exact haccelerate
  | decelerate => exact hdecelerate
  | accelDecel =>
      rw [apply_accelDecel, halves_of_le arch_half (by norm_num)]
      norm_num [arch]
  | bounceEnd => exact outBounce_zero
  | bounceStart => exact apply_bounceStart_zero
  | bounceStartEnd =>
      rw [apply_bounceStartEnd, halves_of_le bounceStart_half (by norm_num), zero_mul,
        apply_bounceStart_zero, zero_div]
  | inElastic | outElastic | inOutElastic => exact absurd he.symm Bool.false_ne_true

/-- Each curve is one of two that mirror each other, or its own mirror image. -/
theorem apply_one (he : e.isElastic = false) : e.apply (1 : K) = 1 := by
  have hmirror {g : K → K} (hg : g (1 / 2) = 1 / 2) (hzero : halves g 0 = 0) :
      halves g 1 = 1 := by
    have hback := halves_one_sub hg 0
    rw [sub_zero, hzero, sub_zero] at hback
    exact hback
  cases e with
  | linear => rfl
  | accelerate => exact mul_one 1
  | decelerate =>
      rw [apply_decelerate, sub_self, apply_zero rfl, sub_zero]
  | accelDecel =>
      rw [apply_accelDecel]
      refine hmirror arch_half ?_
      rw [← apply_accelDecel]
      exact apply_zero rfl
  | bounceEnd => exact outBounce_one
  | bounceStart => exact apply_bounceStart_one
  | bounceStartEnd =>
      rw [apply_bounceStartEnd]
      refine hmirror bounceStart_half ?_
      rw [← apply_bounceStartEnd]
      exact apply_zero rfl
  | inElastic | outElastic | inOutElastic => exact absurd he.symm Bool.false_ne_true

/-- A steady curve never falls, and gains two units for one at most. -/
theorem slopeIn_steady (he : e.isSteady = true) : SlopeIn (0 : K) 2 e.apply 0 1 := by
  have haccelerate : SlopeIn (0 : K) 2 accelerate.apply 0 1 := by
    refine ((slopeIn_arch zero_le_one 0 0 0 1).widen ?_ ?_).congr fun n _ _ => apply_accelerate n
    all_goals norm_num
  have hhalf : SlopeIn (0 : K) 2 (arch 2 0 0) 0 (1 / 2) := by
    refine (slopeIn_arch zero_le_two 0 0 0 (1 / 2)).widen ?_ ?_
    all_goals norm_num
  cases e with
  | linear =>
      intro n m _ hnm _
      show 0 * (m - n) ≤ m - n ∧ m - n ≤ 2 * (m - n)
      constructor
      · linarith
      · linarith
  | accelerate => exact haccelerate
  | decelerate =>
      have hmirror := haccelerate.reflect
      rw [sub_self, sub_zero] at hmirror
      exact hmirror.congr fun n _ _ => apply_decelerate n
  | accelDecel => exact (slopeIn_halves arch_half hhalf).congr fun n _ _ => apply_accelDecel n
  | inElastic | outElastic | inOutElastic | bounceEnd | bounceStart | bounceStartEnd =>
      exact absurd he Bool.false_ne_true

/-- No curve is steeper than the bounce before its first break. -/
theorem slopeIn_apply (he : e.isElastic = false) :
    SlopeIn (-(11 / 2) : K) (11 / 2) e.apply 0 1 := by
  have hsteady (he : e.isSteady = true) : SlopeIn (-(11 / 2) : K) (11 / 2) e.apply 0 1 :=
    (slopeIn_steady he).widen (by norm_num) (by norm_num)
  have hbounceStart : SlopeIn (-(11 / 2) : K) (11 / 2) bounceStart.apply 0 1 := by
    have hmirror := slopeIn_outBounce (K := K).reflect
    rw [sub_self, sub_zero] at hmirror
    exact hmirror.congr fun n _ _ => apply_bounceStart n
  cases e with
  | linear | accelerate | decelerate | accelDecel => exact hsteady rfl
  | bounceEnd => exact slopeIn_outBounce
  | bounceStart => exact hbounceStart
  | bounceStartEnd =>
      exact (slopeIn_halves bounceStart_half hbounceStart.halve).congr
        fun n _ _ => apply_bounceStartEnd n
  | inElastic | outElastic | inOutElastic => exact absurd he.symm Bool.false_ne_true

/-- No curve without a sine leaves the way. -/
theorem apply_mem (he : e.isElastic = false) (hn : 0 ≤ n) (hn' : n ≤ 1) :
    0 ≤ e.apply n ∧ e.apply n ≤ 1 := by
  have hsteady (hsteady : e.isSteady = true) : 0 ≤ e.apply n ∧ e.apply n ≤ 1 := by
    have hslope := slopeIn_steady (K := K) hsteady
    have hleast := hslope.le le_rfl hn hn'
    have hmost := hslope.le hn hn' le_rfl
    rw [apply_zero he] at hleast
    rw [apply_one he] at hmost
    exact ⟨hleast, hmost⟩
  cases e with
  | linear | accelerate | decelerate | accelDecel => exact hsteady rfl
  | bounceEnd => exact outBounce_mem hn hn'
  | bounceStart => exact apply_bounceStart_mem hn hn'
  | bounceStartEnd =>
      rw [apply_bounceStartEnd]
      refine halves_mem (fun m hm hm' => ?_) hn hn'
      obtain ⟨hleast, hmost⟩ :=
        apply_bounceStart_mem (by linarith : 0 ≤ m * 2) (by linarith : m * 2 ≤ 1)
      exact ⟨by linarith, by linarith⟩
  | inElastic | outElastic | inOutElastic => exact absurd he.symm Bool.false_ne_true

end Curve

-- ============================================================= the result

variable (K) in
/-- What is promised of the curves that do not swing. -/
structure CurvesMeet [Curves K] : Prop where
  decelerate_eq (n : K) : decelerate.apply n = 1 - accelerate.apply (1 - n)
  bounceStart_eq (n : K) : bounceStart.apply n = 1 - bounceEnd.apply (1 - n)
  accelDecel_one_sub (n : K) : accelDecel.apply (1 - n) = 1 - accelDecel.apply n
  bounceStartEnd_one_sub (n : K) : bounceStartEnd.apply (1 - n) = 1 - bounceStartEnd.apply n
  begins (e : Easing) (he : e.isElastic = false) : e.apply (0 : K) = 0
  arrives (e : Easing) (he : e.isElastic = false) : e.apply (1 : K) = 1
  /-- No jump, then: a jump would be steeper than any number. -/
  steep (e : Easing) (he : e.isElastic = false) (n m : K) (hn : n ∈ Set.Icc 0 1)
    (hm : m ∈ Set.Icc 0 1) : |e.apply n - e.apply m| ≤ 5.5 * |n - m|

variable [Curves K] [IsStrictOrderedRing K]

/-- The curves that do not swing begin at 0, arrive at 1 and are mirrored in pairs or in
themselves, and none of them is steeper than five and a half. -/
theorem curves_reflect_and_do_not_jump : CurvesMeet K := by
  constructor
  case decelerate_eq => exact apply_decelerate
  case bounceStart_eq => exact apply_bounceStart
  case accelDecel_one_sub =>
      intro n
      rw [apply_accelDecel, apply_accelDecel]
      exact halves_one_sub arch_half n
  case bounceStartEnd_one_sub =>
      intro n
      rw [apply_bounceStartEnd, apply_bounceStartEnd]
      exact halves_one_sub bounceStart_half n
  case begins => exact fun e => apply_zero
  case arrives => exact fun e => apply_one
  case steep =>
      intro e he n m hn hm
      have hslope : (5.5 : K) = 11 / 2 := by norm_num
      rw [hslope]
      exact (slopeIn_apply he).abs_sub_le hn hm

/-- The bounce reaches 1 where its first arc meets the second, and so its mirror image
is at rest after 7 elevenths of the way. -/
theorem the_first_arc_reaches_one :
    CurvesMeet ℝ ∧ bounceEnd.apply (4 / 11 : ℝ) = 1 ∧ bounceStart.apply (7 / 11 : ℝ) = 0 := by
  have hmeet : CurvesMeet ℝ := curves_reflect_and_do_not_jump
  have htop : bounceEnd.apply (4 / 11 : ℝ) = 1 := by
    refine (outBounce_eq _).trans ?_
    norm_num [arch]
  have hback : (1 : ℝ) - 7 / 11 = 4 / 11 := by norm_num
  refine ⟨hmeet, htop, ?_⟩
  rw [hmeet.bounceStart_eq, hback, htop, sub_self]

end Easing

end Stagecraft
