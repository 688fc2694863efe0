/-
How a double is spelled once its digits are known.

The digits are those of `shortest`. What is left to decide is a record of
choices: for which exponents the point is put among the digits instead of
writing a power of ten, whether a whole number keeps a point and a zero,
whether the power of ten has a plus sign, and which of two equally good runs of
digits is written. A zero has the digit 0 and keeps its sign.
-/
import Stagecraft.Decimal.Shortest

namespace Stagecraft.Decimal

/-- The choices of a spelling. -/
structure Style where
  /-- Whether a first digit of this exponent is written without a power of ten. -/
  positional : Int → Bool
  /-- Whether a whole number ends in a point and a zero. -/
  pointed : Bool
  /-- Whether a positive power of ten has a plus sign. -/
  plus : Bool
  /-- Which of two equally short and equally near decimals is written. -/
  tie : Tie

namespace Style

/-- Never a power of ten, and no point in a whole number: the spelling of
messages. -/
def plain : Style := ⟨fun _ => true, false, false, .up⟩

/-- A power of ten from 10 ^ 16 on and below 10 ^ -4, and always a point
otherwise: the spelling of descriptions. -/
def descriptive : Style := ⟨fun e => decide (-4 ≤ e ∧ e < 16), true, false, .up⟩

/-- Digits with the point after the digit of exponent 0, for a first digit of
exponent `e`. -/
def place (s : Style) (ds : List Char) (e : Int) : List Char :=
  if e < 0 then '0' :: '.' :: (List.replicate (-e - 1).toNat '0' ++ ds)
  else
    let whole := e.toNat + 1
    if ds.length ≤ whole then
      ds ++ List.replicate (whole - ds.length) '0' ++ (if s.pointed then ['.', '0'] else [])
    else ds.take whole ++ '.' :: ds.drop whole

/-- Digits with the point after the first, and the power of ten. -/
def raise (s : Style) (ds : List Char) (e : Int) : List Char :=
  let rest := ds.drop 1
  let power := if e < 0 then '-' :: digits e.natAbs
    else (if s.plus then ['+'] else []) ++ digits e.natAbs
  ds.take 1 ++ (if rest.isEmpty then [] else '.' :: rest) ++ 'e' :: power

/-- A decimal number in this style. -/
def spell (s : Style) (d : Decimal) : List Char :=
  let ds := digits d.coefficient
  if s.positional d.lead then s.place ds d.lead else s.raise ds d.lead

/-- The sign and the digits of ± m · 2 ^ q. -/
def finite (s : Style) (negative : Bool) (m : Nat) (q : Int) : List Char :=
  (if negative then ['-'] else []) ++
    (if m = 0 then s.place ['0'] 0 else s.spell (shortest s.tie m q))

/-- A double in this style; what is not finite has a name. -/
def render (s : Style) (x : Float) : String :=
  match Binary64.ofFloat x with
  | .nan => "NaN"
  | .infinite negative => if negative then "-inf" else "inf"
  | .finite negative m q => String.ofList (s.finite negative m q)

end Style

end Stagecraft.Decimal
