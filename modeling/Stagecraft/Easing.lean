/-
Easing curves.

A curve maps the share of time that has passed to the share of the way that
has been covered. It is not confined to the range from 0 to 1: the elastic
curves swing beyond both ends, and the argument is never clamped. The curves
that start slowly are the point reflections of those that end slowly.
-/
import Stagecraft.Fault
import Stagecraft.Text.Blank

namespace Stagecraft

inductive Easing where
  | linear
  | accelerate
  | decelerate
  | accelDecel
  | inElastic
  | outElastic
  | inOutElastic
  | bounceEnd
  | bounceStart
  | bounceStartEnd
  deriving DecidableEq, Repr, Inhabited

namespace Easing

-- ================================================================= names

def all : List Easing :=
  [linear, accelerate, decelerate, accelDecel, inElastic, outElastic, inOutElastic,
   bounceEnd, bounceStart, bounceStartEnd]

def name : Easing → String
  | linear => "linear"
  | accelerate => "accelerate"
  | decelerate => "decelerate"
  | accelDecel => "accel_decel"
  | inElastic => "in_elastic"
  | outElastic => "out_elastic"
  | inOutElastic => "in_out_elastic"
  | bounceEnd => "bounce_end"
  | bounceStart => "bounce_start"
  | bounceStartEnd => "bounce_start_end"

/-- The curve of a name, in any case and with blanks around it. -/
def parse {α : Type} (name : String) : Except (Fault α) Easing :=
  let key := Text.key name
  match all.find? fun e => e.name == key with
  | some e => .ok e
  | none => .error (.unknownEasing name)

theorem mem_all (e : Easing) : e ∈ all := by cases e <;> decide

theorem name_injective {e f : Easing} (h : e.name = f.name) : e = f := by
  cases e <;> cases f <;> first | rfl | exact absurd h (by decide)

-- ================================================================ curves

section Bounce

variable {α : Type} [Scalar α]

/-- Four parabolas of one width, each lower arch half as long as the one before. -/
def outBounce (n : α) : α :=
  let k : α := 7.5625
  if n < 1.0 / 2.75 then k * n * n
  else if n < 2.0 / 2.75 then
    let p := n - 1.5 / 2.75
    k * p * p + 0.75
  else if n < 2.5 / 2.75 then
    let p := n - 2.25 / 2.75
    k * p * p + 0.9375
  else
    let p := n - 2.625 / 2.75
    k * p * p + 0.984375

def inBounce (n : α) : α := 1.0 - outBounce (1.0 - n)

end Bounce

section Curve

variable {α : Type} [Elementary α]

open Elementary

/-- The sine of an elastic curve of the given period, shifted by a quarter of it. -/
def swing (period n : α) : α := sin ((n - period / 4.0) * 2.0 * pi / period)

/-- The share of the way at the share `n` of the time. -/
def apply : Easing → α → α
  | linear, n => n
  | accelerate, n => n * n
  | decelerate, n => -n * (n - 2.0)
  | accelDecel, n =>
    let p := n * 2.0
    if p < 1.0 then 0.5 * p * p
    else
      let p := p - 1.0;
      -0.5 * (p * (p - 2.0) - 1.0)
  | inElastic, n =>
    if n == 1.0 then 1.0
    else
      let n := n - 1.0;
      -(pow 2.0 (10.0 * n) * swing 0.3 n)
  | outElastic, n =>
    if n == 1.0 then 1.0
    else pow 2.0 (-10.0 * n) * swing 0.3 n + 1.0
  | inOutElastic, n =>
    let q := n * 2.0
    if q == 2.0 then 1.0
    else
      let q := q - 1.0
      if q < 0.0 then -0.5 * pow 2.0 (10.0 * q) * swing (0.3 * 1.5) q
      else 0.5 * pow 2.0 (-10.0 * q) * swing (0.3 * 1.5) q + 1.0
  | bounceEnd, n => outBounce n
  | bounceStart, n => inBounce n
  | bounceStartEnd, n =>
    let p := n * 2.0
    if p < 1.0 then inBounce p * 0.5 else outBounce (p - 1.0) * 0.5 + 0.5

end Curve

end Easing

end Stagecraft
