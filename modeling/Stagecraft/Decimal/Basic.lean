/-
Decimal numbers: a whole coefficient times a power of ten.

The positive double m · 2 ^ q is handled as a fraction of whole numbers.
`leadExponent m q` is the exponent of its first decimal digit, the e with
10 ^ e ≤ m · 2 ^ q < 10 ^ (e + 1); it says where the grids of `Shortest.lean`
and `Places.lean` begin.
-/
import Stagecraft.Binary64

namespace Stagecraft

/-- The number `coefficient` · 10 ^ `exponent`. -/
structure Decimal where
  coefficient : Nat
  exponent : Int
  deriving DecidableEq, Repr

namespace Decimal

/-- How many decimal digits a whole number has; 0 has one. -/
def digitCount (n : Nat) : Nat := if n < 10 then 1 else digitCount (n / 10) + 1
termination_by n
decreasing_by omega

/-- The digits of a whole number, the first one first. -/
def digits (n : Nat) : List Char := Nat.toDigits 10 n

/-- The number that a run of digits stands for. -/
def ofDigits (ds : List Char) : Nat := ds.foldl (fun n c => 10 * n + (c.toNat - 48)) 0

/-- The same number without zeros at the end of its coefficient. -/
def trim (d : Decimal) : Decimal :=
  if 0 < d.coefficient ∧ d.coefficient % 10 = 0 then
    trim ⟨d.coefficient / 10, d.exponent + 1⟩
  else d
termination_by d.coefficient
decreasing_by
  show d.coefficient / 10 < d.coefficient
  omega

/-- The exponent of the first digit of a positive decimal number. -/
def lead (d : Decimal) : Int := d.exponent + digitCount d.coefficient - 1

/-- The power `base ^ n`, or 1 when `n` is negative: one of the two is the
numerator of a scaled fraction and the other its denominator. -/
def scale (base : Nat) (n : Int) : Nat := Nat.pow base n.toNat

/-- The exponent of the first decimal digit of m · 2 ^ q, for m above 0. Below 1
it is read off the reciprocal, which is a power of ten for no such fraction. -/
def leadExponent (m : Nat) (q : Int) : Int :=
  let num := m * scale 2 q
  let den := scale 2 (-q)
  if den ≤ num then digitCount (num / den) - 1
  else -digitCount (den / num)

/-- The quotient rounded to the nearest whole number, a half to the even one. -/
def roundDiv (num den : Nat) : Nat :=
  let whole := num / den
  let rest := 2 * (num % den)
  if rest < den then whole
  else if den < rest then whole + 1
  else whole + whole % 2

end Decimal

end Stagecraft
