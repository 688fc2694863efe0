/-
JSON numbers.

A number keeps its digits as they were written, and is read in one of two
ways. `toFloat` is the double nearest to it. `quick?` is the reading of a
value: the digits that fit into a word of 64 bits are made a double, which is
then multiplied or divided by a power of ten, so that it is rounded more than
once and may lie beside the nearest double. The digits that do not fit are
dropped; before the point they still count as powers of ten.
-/
import Stagecraft.Decimal.Reader

namespace Stagecraft.Json

/-- A number as it is written: the digits before and after the point, and the
power of ten after the `e`, 0 where there is none. -/
structure Number where
  negative : Bool
  whole : List Char
  fraction : List Char
  power : Int
  deriving DecidableEq, Repr

namespace Number

/-- The number, exactly. -/
def numeral (n : Number) : Numeral := .ofParts n.negative n.whole n.fraction n.power

/-- The double nearest to the number. -/
def toFloat (n : Number) : Float := n.numeral.toFloat

/-- Puts digits at the end of a word of 64 bits as long as they fit, and counts the
digits that are left. -/
def fill (word : Nat) : List Char → Nat × Nat
  | [] => (word, 0)
  | c :: cs =>
    let next := 10 * word + (c.toNat - 48)
    if next < UInt64.size then fill next cs else (word, cs.length + 1)

/-- The digits that fit into a word, and the power of ten that they count. -/
def leading (n : Number) : Nat × Int :=
  let (word, beyond) := fill 0 n.whole
  let (word, unread) := fill word n.fraction
  (word, n.power + beyond - (n.fraction.length - unread))

/-- The double nearest to a power of ten, from 0 to 308. -/
def powerOfTen (n : Nat) : Float := Float.ofScientific 1 false n

/-- A double times a power of ten, if that is not beyond all doubles. A power that
is too small for a double is divided off in two steps or more. -/
def scaled? (x : Float) (power : Int) : Option Float :=
  if x == 0.0 then some x
  else if power < -308 then scaled? (x / powerOfTen 308) (power + 308)
  else if power < 0 then some (x / powerOfTen power.natAbs)
  else if power ≤ 308 then
    let y := x * powerOfTen power.toNat
    if y.isInf then none else some y
  else none
termination_by power.natAbs
decreasing_by omega

/-- The number as a value, if it is not beyond all doubles. -/
def quick? (n : Number) : Option Float :=
  (scaled? (Float.ofNat n.leading.1) n.leading.2).map fun x => if n.negative then -x else x

end Number

end Stagecraft.Json
