/-
Doubles, taken apart into sign, whole significand and power of two.

A double is no number, an infinity, or ± m · 2 ^ q with m below 2 ^ 53.
Whatever has to be exact about doubles is computed from this form in whole
numbers: the floor, the conversion to 64-bit words, and the decimal digits
of `Decimal/Shortest.lean` and `Decimal/Places.lean`.
-/
import Stagecraft.Scalar

namespace Stagecraft

/-- The value of a double: `finite negative m q` stands for ± m · 2 ^ q. -/
inductive Binary64 where
  | nan
  | infinite (negative : Bool)
  | finite (negative : Bool) (significand : Nat) (exponent : Int)
  deriving DecidableEq, Repr

namespace Binary64

/-- The bit above the fraction of a double, which only normal doubles have:
2 ^ 52. -/
def hiddenBit : Nat := 0x10000000000000

/-- The value that the bit pattern of a double stands for. Exponent field 0
holds zero and the subnormal doubles, field 2047 what is not finite. -/
def ofFloat (x : Float) : Binary64 :=
  let bits := x.toBits.toNat
  let negative := decide (bits >>> 63 = 1)
  let field : Nat := (bits >>> 52) % 2048
  let fraction : Nat := bits % hiddenBit
  if field = 2047 then
    if fraction = 0 then .infinite negative else .nan
  else if field = 0 then .finite negative fraction (-1074)
  else .finite negative (fraction + hiddenBit) (field - 1075)

-- ======================================================== whole numbers

/-- The significand with its sign. -/
def signed (negative : Bool) (m : Nat) : Int := if negative then -m else m

/-- The greatest whole number that is not above ± m · 2 ^ q. -/
def floorWhole (negative : Bool) (m : Nat) (q : Int) : Int :=
  if 0 ≤ q then signed negative (m <<< q.toNat)
  else signed negative m >>> (-q).toNat

/-- The least whole number that is not below ± m · 2 ^ q. -/
def ceilWhole (negative : Bool) (m : Nat) (q : Int) : Int :=
  -floorWhole (!negative) m q

def minWord : Int := -0x8000000000000000

def maxWord : Int := 0x7FFFFFFFFFFFFFFF

/-- The nearest whole number that a signed 64-bit word can hold. -/
def saturate (n : Int) : Int := max minWord (min n maxWord)

/-- A double as a signed 64-bit word, its fraction removed by `whole`. What is
too large saturates, and what is no number becomes 0. -/
def toWord (whole : Bool → Nat → Int → Int) (x : Float) : Int :=
  match ofFloat x with
  | .nan => 0
  | .infinite negative => if negative then minWord else maxWord
  | .finite negative m q => saturate (whole negative m q)

def floorWord : Float → Int := toWord floorWhole

def ceilWord : Float → Int := toWord ceilWhole

theorem saturate_mem (n : Int) : minWord ≤ saturate n ∧ saturate n ≤ maxWord := by
  simp only [saturate, minWord, maxWord]
  omega

theorem toWord_mem (whole : Bool → Nat → Int → Int) (x : Float) :
    minWord ≤ toWord whole x ∧ toWord whole x ≤ maxWord := by
  unfold toWord
  split
  · decide
  · split <;> decide
  · exact saturate_mem _

/-- The greatest whole double that is not above `x`. A double with a
non-negative power of two is whole, and so is what is not finite; a zero
keeps its sign. -/
def floor (x : Float) : Float :=
  match ofFloat x with
  | .finite negative m q =>
    if 0 ≤ q then x
    else
      let n := Float.ofNat (floorWhole negative m q).natAbs
      if negative then -n else n
  | _ => x

-- ======================================================== hypotenuses

/-- How many steps of 2 ^ -1075, half of the smallest double, the size of a
double is. Infinity counts as the power of two after the largest double. -/
def halfSteps (x : Float) : Nat :=
  match ofFloat x with
  | .finite _ m q => m <<< (q + 1075).toNat
  | .infinite _ => 1 <<< (1024 + 1075)
  | .nan => 0

/-- The neighbour of a positive double on whose side of the way to it the root of
`square` lies, or the double itself. The sum of two neighbours is twice their
midpoint, so its square is compared with four times `square`. Above infinity
there is only infinity. -/
def towardRoot (square : Nat) (h : Float) : Float :=
  let above := if h.isInf then h else Float.ofBits (h.toBits + 1)
  let below := Float.ofBits (h.toBits - 1)
  let up := halfSteps h + halfSteps above
  let down := halfSteps h + halfSteps below
  if up * up < 4 * square then above
  else if 4 * square < down * down then below
  else h

/-- The length of the hypotenuse, scaled by the longer leg so that no square
overflows, to within two neighbours. -/
def hypotEstimate (x y : Float) : Float :=
  let long := if x < y then y else x
  let short := if x < y then x else y
  let r := short / long
  long * Float.sqrt (1.0 + r * r)

/-- The length of the hypotenuse, which is the double nearest to the exact one. An
infinite leg makes it infinite, whatever the other leg is. -/
def hypot (x y : Float) : Float :=
  let infinity := 1.0 / 0.0
  let a := x.abs
  let b := y.abs
  if a == infinity || b == infinity then infinity
  else if a == 0.0 || b == 0.0 then a + b
  else
    let h := hypotEstimate a b
    let square := halfSteps a * halfSteps a + halfSteps b * halfSteps b
    if h.isNaN then h else towardRoot square (towardRoot square h)

end Binary64

-- ================================================ doubles as scalars

instance : Scalar Float where
  natCast := Float.ofNat
  decLt := inferInstance
  decLe := inferInstance
  floor := Binary64.floor

instance : Elementary Float where
  pi := 3.141592653589793
  sqrt := Float.sqrt
  sin := Float.sin
  cos := Float.cos
  acos := Float.acos
  atan2 := Float.atan2
  hypot := Binary64.hypot
  pow := Float.pow

end Stagecraft
