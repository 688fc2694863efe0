/-
Vectors of the plane.

Every operation gives a new vector. Lengths and angles need the elementary
functions, all else only arithmetic. A rotation by a multiple of a quarter
turn moves and negates the coordinates and so is exact (`turn`); every other
angle goes through its sine and cosine.
-/
import Stagecraft.Fault

namespace Stagecraft

structure Vec2 (α : Type) where
  x : α
  y : α
  deriving DecidableEq, Repr, Inhabited

namespace Vec2

variable {α : Type}

section Arithmetic

variable [Scalar α]

instance : Add (Vec2 α) := ⟨fun v w => ⟨v.x + w.x, v.y + w.y⟩⟩
instance : Sub (Vec2 α) := ⟨fun v w => ⟨v.x - w.x, v.y - w.y⟩⟩
instance : Neg (Vec2 α) := ⟨fun v => ⟨-v.x, -v.y⟩⟩
instance : HMul (Vec2 α) α (Vec2 α) := ⟨fun v k => ⟨v.x * k, v.y * k⟩⟩
instance : HDiv (Vec2 α) α (Vec2 α) := ⟨fun v k => ⟨v.x / k, v.y / k⟩⟩

theorem add_def (v w : Vec2 α) : v + w = ⟨v.x + w.x, v.y + w.y⟩ := rfl

theorem sub_def (v w : Vec2 α) : v - w = ⟨v.x - w.x, v.y - w.y⟩ := rfl

theorem neg_def (v : Vec2 α) : -v = ⟨-v.x, -v.y⟩ := rfl

theorem mul_def (v : Vec2 α) (k : α) : v * k = ⟨v.x * k, v.y * k⟩ := rfl

theorem div_def (v : Vec2 α) (k : α) : v / k = ⟨v.x / k, v.y / k⟩ := rfl

def zero : Vec2 α := ⟨0.0, 0.0⟩

/-- Division by a scalar that has to be a number; it may be zero. -/
def divide (v : Vec2 α) (k : α) : Except (Fault α) (Vec2 α) :=
  if Scalar.isNumber k then .ok (v / k) else .error (.notANumber "divisor")

def dot (v w : Vec2 α) : α := v.x * w.x + v.y * w.y

/-- The component of the product in space that stands on the plane. -/
def cross (v w : Vec2 α) : α := v.x * w.y - v.y * w.x

def lengthSquared (v : Vec2 α) : α := v.x * v.x + v.y * v.y

def distanceSquared (v w : Vec2 α) : α := (w - v).lengthSquared

/-- Whether the squared length is one, to about six decimal places. -/
def isNormalized (v : Vec2 α) : Bool := Scalar.abs (v.lengthSquared - 1.0) < 1e-6

/-- The point at the share `t` of the way to `w`; `t` may lie outside 0 to 1. -/
def lerp (v w : Vec2 α) (t : α) : Vec2 α := ⟨v.x + (w.x - v.x) * t, v.y + (w.y - v.y) * t⟩

/-- Whether both components agree to `places` decimal places. -/
def almostEqual (v w : Vec2 α) (places : Int) : Bool :=
  Scalar.almostEqual v.x w.x places && Scalar.almostEqual v.y w.y places

/-- Equality of vectors is agreement to seven decimal places. -/
def equal (v w : Vec2 α) : Bool := v.almostEqual w 7

open Scalar in
/-- The vector after a turn. -/
def turn (v : Vec2 α) : Turn α → Vec2 α
  | .none => v
  | .quarter => ⟨-v.y, v.x⟩
  | .opposite => ⟨-v.x, -v.y⟩
  | .threeQuarters => ⟨v.y, -v.x⟩
  | .general s c => ⟨v.x * c - v.y * s, v.x * s + v.y * c⟩

end Arithmetic

section Length

variable [Elementary α]

open Scalar Elementary

-- =============================================================== lengths

def length (v : Vec2 α) : α := hypot v.x v.y

def distance (v w : Vec2 α) : α := (w - v).length

/-- The vector of length one in the same direction. -/
def normalize (v : Vec2 α) : Except (Fault α) (Vec2 α) :=
  if v.length ≤ 0.0 then .error (.zeroLength "normalize") else .ok (v / v.length)

/-- The vector of the given length in the same direction. -/
def scaleToLength (v : Vec2 α) (length : α) : Except (Fault α) (Vec2 α) :=
  if v.length ≤ 0.0 then .error (.zeroLength "scale") else .ok (v * (length / v.length))

/-- The vector reflected off a surface, whose normal may have any length but
zero. -/
def reflect (v normal : Vec2 α) : Except (Fault α) (Vec2 α) :=
  match normal.normalize with
  | .error _ => .error (.zeroLength "reflect off")
  | .ok n =>
    let d := 2.0 * v.dot n
    .ok ⟨v.x - d * n.x, v.y - d * n.y⟩

-- =============================================================== angles

/-- The vector turned counter-clockwise by an angle in radians. -/
def rotateRadians (v : Vec2 α) (radians : α) : Vec2 α := v.turn (turnOf radians)

/-- The vector turned counter-clockwise by an angle in degrees. -/
def rotate (v : Vec2 α) (degrees : α) : Vec2 α := v.rotateRadians (rotationOfDegrees degrees)

/-- The angle in degrees from this vector to `w`. -/
def angleTo (v w : Vec2 α) : α := degreesOfRadians (atan2 w.y w.x - atan2 v.y v.x)

/-- Length and angle in degrees. -/
def toPolar (v : Vec2 α) : α × α := (v.length, degreesOfRadians (atan2 v.y v.x))

/-- The vector of a length and an angle in degrees. -/
def ofPolar (radius degrees : α) : Vec2 α := (⟨radius, 0.0⟩ : Vec2 α).rotate degrees

end Length

end Vec2

end Stagecraft
