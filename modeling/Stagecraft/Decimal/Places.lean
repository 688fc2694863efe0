/-
Decimal rounding of the exact value of a double.

Unlike the shortest digits, these are the digits of the double itself, cut
after a fixed decimal place or after a fixed number of digits and rounded to
nearest, a half to the even neighbour.
-/
import Stagecraft.Decimal.Basic

namespace Stagecraft.Decimal

/-- The whole number nearest to m · 2 ^ q / 10 ^ k. -/
def nearestMultiple (m : Nat) (q k : Int) : Nat :=
  roundDiv (m * scale 2 q * scale 10 (-k)) (scale 2 (-q) * scale 10 k)

/-- ± m · 2 ^ q with exactly `places` decimal places, at least one. -/
def placesText (places : Nat) (negative : Bool) (m : Nat) (q : Int) : List Char :=
  let n := nearestMultiple m q (-places)
  let fraction := digits (n % scale 10 places)
  (if negative then ['-'] else []) ++ digits (n / scale 10 places) ++
    '.' :: (List.replicate (places - fraction.length) '0' ++ fraction)

/-- A double with exactly `places` decimal places; what is not finite has a name. -/
def withPlaces (places : Nat) (x : Float) : String :=
  match Binary64.ofFloat x with
  | .nan => "NaN"
  | .infinite negative => if negative then "-inf" else "inf"
  | .finite negative m q => String.ofList (placesText places negative m q)

/-- m · 2 ^ q rounded to `count` decimal digits, for m and `count` above 0. -/
def significant (count : Nat) (m : Nat) (q : Int) : Decimal :=
  let k := leadExponent m q - (count - 1)
  ⟨nearestMultiple m q k, k⟩

end Stagecraft.Decimal
