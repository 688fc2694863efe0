/-
Reading decimal numbers.

A numeral is a sign, a whole coefficient and a power of ten, kept exactly, so
that a reader decides by grammar alone and a later step decides what double
is meant. That double is the nearest one: a numeral beyond the largest
double is infinite, and one below half of the smallest is zero.
-/
import Stagecraft.Decimal.Places

namespace Stagecraft

/-- ± coefficient · 10 ^ exponent, as it was written. -/
structure Numeral where
  negative : Bool
  coefficient : Nat
  exponent : Int
  deriving DecidableEq, Repr

namespace Numeral

open Decimal (ofDigits digitCount)

/-- The double nearest to coefficient · 10 ^ exponent. Far outside the range of
doubles the answer is known from the number of digits. -/
def magnitude (coefficient : Nat) (exponent : Int) : Float :=
  if coefficient = 0 then 0.0
  else
    let size := digitCount coefficient + exponent
    if 310 < size then 1.0 / 0.0
    else if size < -330 then 0.0
    else Float.ofScientific coefficient (decide (exponent < 0)) exponent.natAbs

/-- The double nearest to the numeral. -/
def toFloat (n : Numeral) : Float :=
  let x := magnitude n.coefficient n.exponent
  if n.negative then -x else x

/-- The numeral of a double rounded to `count` decimal digits, read again. -/
def roundSignificant (count : Nat) (x : Float) : Float :=
  match Binary64.ofFloat x with
  | .finite negative m q =>
    if m = 0 then x
    else
      let d := Decimal.significant count m q
      toFloat ⟨negative, d.coefficient, d.exponent⟩
  | _ => x

-- =============================================================== scanning

/-- A sign, when there is one, and what follows it. -/
def scanSign : List Char → Bool × List Char
  | '-' :: r => (true, r)
  | '+' :: r => (false, r)
  | r => (false, r)

/-- The power of ten after an `e`, or 0 where there is no `e`. An `e` without
digits is refused. -/
def scanExponent (cs : List Char) : Option (Int × List Char) :=
  match cs with
  | [] => some (0, [])
  | c :: r =>
    if c = 'e' ∨ c = 'E' then
      let (negative, r) := scanSign r
      let (ds, rest) := r.span Char.isDigit
      if ds.isEmpty then none
      else some (Binary64.signed negative (ofDigits ds), rest)
    else some (0, cs)

/-- Digits after a point, or none where there is no point. -/
def scanFraction : List Char → List Char × List Char
  | '.' :: r => r.span Char.isDigit
  | r => ([], r)

/-- The numeral of digits before and after the point and a power of ten. -/
def ofParts (negative : Bool) (whole fraction : List Char) (exponent : Int) : Numeral :=
  ⟨negative, ofDigits (whole ++ fraction), exponent - fraction.length⟩

/-- A numeral in free form: a sign of either kind, digits before or after the
point or both, and a power of ten. -/
def scanFree (cs : List Char) : Option Numeral :=
  let (negative, r) := scanSign cs
  let (whole, r) := r.span Char.isDigit
  let (fraction, r) := scanFraction r
  if (whole ++ fraction).isEmpty then none
  else
    match scanExponent r with
    | some (exponent, []) => some (ofParts negative whole fraction exponent)
    | _ => none

end Numeral

-- ========================================================= reading text

/-- A double in free form, or one of the names `nan`, `inf` and `infinity` in any
case, with a sign. -/
def readFloat? (text : String) : Option Float :=
  let (negative, r) := Numeral.scanSign text.toList
  let name := String.ofList (r.map Char.toLower)
  if name = "nan" then some (0.0 / 0.0)
  else if name = "inf" ∨ name = "infinity" then
    some (if negative then -(1.0 / 0.0) else 1.0 / 0.0)
  else (Numeral.scanFree text.toList).map Numeral.toFloat

/-- A whole number below `bound`: digits, after a plus sign or none. -/
def readBelow? (bound : Nat) (text : String) : Option Nat :=
  let ds := match text.toList with
    | '+' :: r => r
    | r => r
  if ds.isEmpty ∨ ds.any (fun c => !c.isDigit) then none
  else
    let n := Decimal.ofDigits ds
    if n < bound then some n else none

end Stagecraft
