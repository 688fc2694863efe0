/-
The numbers the toolkit computes with.

Every rule of geometry, easing and time is written once, over a type of
scalars that offers the four operations, comparisons, decimal constants
and a floor. Doubles are such a type (`Binary64.lean`), and so is every
ordered field with a floor, where the same rules can be reasoned about
without rounding. No law is asked of the operations: over doubles most
laws fail, and each rule fixes the order in which it computes.

What only doubles have is told apart by arithmetic alone. A scalar is a
number when it equals itself, and it is finite when its difference with
itself is a number, so both tests hold everywhere in an exact type.
-/
namespace Stagecraft

/-- Arithmetic, decidable comparisons, decimal constants and a floor. -/
class Scalar (α : Type) extends Add α, Sub α, Mul α, Div α, Neg α, LT α, LE α, BEq α,
    NatCast α, OfScientific α where
  decLt : DecidableLT α
  decLe : DecidableLE α
  /-- The greatest whole scalar that is not above the argument. -/
  floor : α → α

attribute [reducible, instance] Scalar.decLt Scalar.decLe

/-- Scalars with the elementary functions that angles, lengths and elastic
curves need. -/
class Elementary (α : Type) extends Scalar α where
  pi : α
  sqrt : α → α
  sin : α → α
  cos : α → α
  acos : α → α
  /-- The angle of the point whose ordinate comes first. -/
  atan2 : α → α → α
  /-- The length of the hypotenuse, without overflow on the way. -/
  hypot : α → α → α
  pow : α → α → α

namespace Scalar

variable {α : Type}

section Order

variable [Scalar α]

-- ================================================= numbers and extremes

/-- Whether the scalar equals itself. -/
def isNumber (x : α) : Bool := x == x

/-- Whether the difference of the scalar with itself is a number. -/
def isFinite (x : α) : Bool := isNumber (x - x)

def abs (x : α) : α := if x < 0.0 then -x else x

/-- The smaller scalar; one that is no number gives way to the other. -/
def minimum (x y : α) : α :=
  if isNumber x then (if y < x then y else x) else y

/-- The larger scalar; one that is no number gives way to the other. -/
def maximum (x y : α) : α :=
  if isNumber x then (if x < y then y else x) else y

/-- The scalar moved into the range from `lo` to `hi`; what is no number stays. -/
def clamp (lo hi x : α) : α :=
  let y := if x < lo then lo else x
  if hi < y then hi else y

-- =========================================================== whole parts

/-- The remainder that takes the sign of the divisor: `floorMod (-1) 360` is `359`. -/
def floorMod (a b : α) : α := a - b * floor (a / b)

/-- The floor of half a length, which every centre is measured with. -/
def half (length : α) : α := floor (length / 2.0)

-- ================================================================ powers

/-- Multiplies `acc` by the powers `base ^ (2 ^ k)` for the bits `k` of the exponent. -/
def powerLoop (acc base : α) (n : Nat) : α :=
  let acc := if n % 2 = 1 then acc * base else acc
  if n / 2 = 0 then acc else powerLoop acc (base * base) (n / 2)
termination_by n
decreasing_by omega

/-- A whole power by repeated squaring; a negative one is the reciprocal. -/
def power (base : α) (n : Int) : α :=
  let r := powerLoop 1.0 base n.natAbs
  if n < 0 then 1.0 / r else r

/-- Whether the scalars agree once rounded to `places` decimal places: they
are equal, or their difference is less than half a unit of the last place. -/
def almostEqual (a b : α) (places : Int) : Bool :=
  a == b || abs ((a - b) * power 10.0 places) < 0.5

end Order

section Angle

variable [Elementary α]

open Elementary

-- ================================================================ angles

/-- A full turn in radians. -/
def fullTurn : α := 2.0 * pi

/-- A quarter turn in radians. -/
def quarterTurn : α := pi / 2.0

/-- An angle closer than this to a multiple of a quarter turn counts as one. -/
def angleTolerance : α := 1e-12

def radiansOfDegrees (degrees : α) : α := degrees * pi / 180.0

def degreesOfRadians (radians : α) : α := radians * 180.0 / pi

/-- The angle of a rotation given in degrees. It scales by the length of one
degree, which may differ from `radiansOfDegrees` in the last digit. -/
def rotationOfDegrees (degrees : α) : α := degrees * (pi / 180.0)

/-- How a rotation by an angle is carried out: not at all, as one of the
three exact quarter turns, or by the sine and cosine of the angle. -/
inductive Turn (α : Type) where
  | none
  | quarter
  | opposite
  | threeQuarters
  | general (sin cos : α)

/-- The turn of an angle in radians, after wrapping it into one full turn. -/
def turnOf (radians : α) : Turn α :=
  let angle := floorMod radians fullTurn
  if angle < angleTolerance ∨ fullTurn - angle < angleTolerance then .none
  else if abs (angle - quarterTurn) < angleTolerance then .quarter
  else if abs (angle - pi) < angleTolerance then .opposite
  else if abs (angle - 3.0 * quarterTurn) < angleTolerance then .threeQuarters
  else .general (sin angle) (cos angle)

end Angle

end Scalar

end Stagecraft
