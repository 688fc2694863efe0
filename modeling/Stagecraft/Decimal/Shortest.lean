/-
The fewest decimal digits that read back as a double.

The reals that round to the positive double m · 2 ^ q form an interval around
it, half a gap wide on each side, with its ends when m is even. The gap
below the least significand of a binade is half of the gap above. For 1, 2, …
digits the two neighbours of the double on the grid of that many digits are
tried; the first grid that has a neighbour in the interval gives the answer,
and of two such neighbours the nearer one. A tie goes to the upper neighbour or
to the even one, as is asked. If any point of a grid lies in the interval then
one of the two neighbours does, so no shorter decimal reads back; seventeen
digits always suffice.
-/
import Stagecraft.Decimal.Basic

namespace Stagecraft.Decimal

/-- Which of two neighbours is taken half way between them. -/
inductive Tie where
  | up
  | even
  deriving DecidableEq, Repr

/-- The double m · 2 ^ q on the decimal grid of 10 ^ k: the double is
`value / unit` grid steps, and its interval reaches from `value - below` to
`value + above` in the same measure. -/
structure Grid where
  value : Nat
  unit : Nat
  below : Nat
  above : Nat
  closed : Bool

namespace Grid

def of (m : Nat) (q k : Int) : Grid :=
  let s := scale 2 (q - 2) * scale 10 (-k)
  { value := 4 * m * s
    unit := scale 2 (2 - q) * scale 10 k
    below := if m = Binary64.hiddenBit ∧ -1074 < q then s else 2 * s
    above := 2 * s
    closed := m % 2 == 0 }

/-- Whether the `c`-th grid point reads back as the double. -/
def contains (g : Grid) (c : Nat) : Bool :=
  let p := c * g.unit
  if g.closed then decide (g.value ≤ p + g.below ∧ p ≤ g.value + g.above)
  else decide (g.value < p + g.below ∧ p < g.value + g.above)

/-- Of the grid points `c` and `c + 1` on both sides of the double the nearer
one. -/
def nearer (g : Grid) (tie : Tie) (c : Nat) : Nat :=
  let low := g.value - c * g.unit
  let high := (c + 1) * g.unit - g.value
  if low < high then c
  else if high < low then c + 1
  else match tie with
    | .up => c + 1
    | .even => c + c % 2

/-- The grid point that reads back as the double and is nearest to it. -/
def nearest? (g : Grid) (tie : Tie) : Option Nat :=
  let c := g.value / g.unit
  match g.contains c, g.contains (c + 1) with
  | true, true => some (g.nearer tie c)
  | true, false => some c
  | false, true => some (c + 1)
  | false, false => none

end Grid

/-- The decimal with the fewest digits, and of those the nearest, that reads
back as the double m · 2 ^ q, for m above 0. -/
def shortest (tie : Tie) (m : Nat) (q : Int) : Decimal :=
  let lead := leadExponent m q
  let found := (List.range 17).findSome? fun (n : Nat) =>
    ((Grid.of m q (lead - n)).nearest? tie).map fun c => (⟨c, lead - n⟩ : Decimal)
  (found.getD ⟨m * scale 2 q / scale 2 (-q), 0⟩).trim

end Stagecraft.Decimal
