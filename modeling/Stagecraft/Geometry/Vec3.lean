/-
Vectors of space.

The rotation about an axis splits the vector into the part along the axis
and the rest, and turns the rest in its plane: a quarter turn of the rest is
the product of axis and vector. As in the plane, multiples of a quarter turn
are carried out without sine and cosine (`turn`).
-/
import Stagecraft.Fault

namespace Stagecraft

structure Vec3 (α : Type) where
  x : α
  y : α
  z : α
  deriving DecidableEq, Repr, Inhabited

namespace Vec3

variable {α : Type}

section Arithmetic

variable [Scalar α]

instance : Add (Vec3 α) := ⟨fun v w => ⟨v.x + w.x, v.y + w.y, v.z + w.z⟩⟩
instance : Sub (Vec3 α) := ⟨fun v w => ⟨v.x - w.x, v.y - w.y, v.z - w.z⟩⟩
instance : Neg (Vec3 α) := ⟨fun v => ⟨-v.x, -v.y, -v.z⟩⟩
instance : HMul (Vec3 α) α (Vec3 α) := ⟨fun v k => ⟨v.x * k, v.y * k, v.z * k⟩⟩
instance : HDiv (Vec3 α) α (Vec3 α) := ⟨fun v k => ⟨v.x / k, v.y / k, v.z / k⟩⟩

theorem add_def (v w : Vec3 α) : v + w = ⟨v.x + w.x, v.y + w.y, v.z + w.z⟩ := rfl

theorem sub_def (v w : Vec3 α) : v - w = ⟨v.x - w.x, v.y - w.y, v.z - w.z⟩ := rfl

theorem neg_def (v : Vec3 α) : -v = ⟨-v.x, -v.y, -v.z⟩ := rfl

theorem mul_def (v : Vec3 α) (k : α) : v * k = ⟨v.x * k, v.y * k, v.z * k⟩ := rfl

theorem div_def (v : Vec3 α) (k : α) : v / k = ⟨v.x / k, v.y / k, v.z / k⟩ := rfl

def zero : Vec3 α := ⟨0.0, 0.0, 0.0⟩

/-- Division by a scalar that has to be a number; it may be zero. -/
def divide (v : Vec3 α) (k : α) : Except (Fault α) (Vec3 α) :=
  if Scalar.isNumber k then .ok (v / k) else .error (.notANumber "divisor")

def dot (v w : Vec3 α) : α := v.x * w.x + v.y * w.y + v.z * w.z

def cross (v w : Vec3 α) : Vec3 α :=
  ⟨v.y * w.z - v.z * w.y, v.z * w.x - v.x * w.z, v.x * w.y - v.y * w.x⟩

def lengthSquared (v : Vec3 α) : α := v.x * v.x + v.y * v.y + v.z * v.z

def distanceSquared (v w : Vec3 α) : α := (w - v).lengthSquared

/-- Whether the squared length is one, to about six decimal places. -/
def isNormalized (v : Vec3 α) : Bool := Scalar.abs (v.lengthSquared - 1.0) < 1e-6

/-- The point at the share `t` of the way to `w`; `t` may lie outside 0 to 1. -/
def lerp (v w : Vec3 α) (t : α) : Vec3 α := v + (w - v) * t

/-- Whether the components agree to `places` decimal places. -/
def almostEqual (v w : Vec3 α) (places : Int) : Bool :=
  Scalar.almostEqual v.x w.x places && Scalar.almostEqual v.y w.y places &&
    Scalar.almostEqual v.z w.z places

/-- Equality of vectors is agreement to seven decimal places. -/
def equal (v w : Vec3 α) : Bool := v.almostEqual w 7

open Scalar in
/-- The vector after a turn about an axis of length one. -/
def turn (v axis : Vec3 α) (t : Turn α) : Vec3 α :=
  let along := axis * axis.dot v
  let across := axis.cross v
  match t with
  | .none => v
  | .quarter => along + across
  | .opposite => along * (2.0 : α) - v
  | .threeQuarters => along - across
  | .general s c => v * c + across * s + along * (1.0 - c)

end Arithmetic

section Length

variable [Elementary α]

open Scalar Elementary

-- =============================================================== lengths

def length (v : Vec3 α) : α := sqrt v.lengthSquared

def distance (v w : Vec3 α) : α := (w - v).length

/-- The vector of length one in the same direction. -/
def normalize (v : Vec3 α) : Except (Fault α) (Vec3 α) :=
  if v.length ≤ 0.0 then .error (.zeroLength "normalize") else .ok (v / v.length)

/-- The vector of the given length in the same direction. -/
def scaleToLength (v : Vec3 α) (length : α) : Except (Fault α) (Vec3 α) :=
  if v.length ≤ 0.0 then .error (.zeroLength "scale") else .ok (v * (length / v.length))

/-- The vector reflected off a surface, whose normal may have any length but
zero. -/
def reflect (v normal : Vec3 α) : Except (Fault α) (Vec3 α) :=
  match normal.normalize with
  | .error _ => .error (.zeroLength "reflect off")
  | .ok n =>
    let d := 2.0 * v.dot n
    .ok (v - n * d)

-- ============================================================= rotations

/-- The vector turned about an axis by an angle in radians. An axis whose
length is close to one is taken as it is, any other is brought to length one. -/
def rotateRadians (v : Vec3 α) (radians : α) (axis : Vec3 α) : Except (Fault α) (Vec3 α) :=
  if axis.length < angleTolerance then .error (.zeroLength "rotate around")
  else
    let unit := if angleTolerance < abs (axis.length - 1.0) then axis / axis.length else axis
    .ok (v.turn unit (turnOf radians))

/-- The vector turned about an axis by an angle in degrees. -/
def rotate (v : Vec3 α) (degrees : α) (axis : Vec3 α) : Except (Fault α) (Vec3 α) :=
  v.rotateRadians (rotationOfDegrees degrees) axis

/-- The vector turned about one of the coordinate axes, which have length one. -/
def rotateAbout (v : Vec3 α) (degrees : α) (axis : Vec3 α) : Vec3 α :=
  match v.rotate degrees axis with
  | .ok w => w
  | .error _ => v

def rotateX (v : Vec3 α) (degrees : α) : Vec3 α := v.rotateAbout degrees ⟨1.0, 0.0, 0.0⟩

def rotateY (v : Vec3 α) (degrees : α) : Vec3 α := v.rotateAbout degrees ⟨0.0, 1.0, 0.0⟩

def rotateZ (v : Vec3 α) (degrees : α) : Vec3 α := v.rotateAbout degrees ⟨0.0, 0.0, 1.0⟩

-- =============================================================== angles

/-- The angle in degrees between the vectors, from 0 to 180. -/
def angleTo (v w : Vec3 α) : Except (Fault α) α :=
  let lengths := v.length * w.length
  if lengths ≤ 0.0 then .error (.zeroLength "measure the angle of")
  else .ok (degreesOfRadians (acos (clamp (-1.0) 1.0 (v.dot w / lengths))))

/-- Length, angle from the third axis and angle around it, in degrees. -/
def toSpherical (v : Vec3 α) : α × α × α :=
  if v.length ≤ 0.0 then (0.0, 0.0, 0.0)
  else
    (v.length, degreesOfRadians (acos (clamp (-1.0) 1.0 (v.z / v.length))),
      degreesOfRadians (atan2 v.y v.x))

/-- The vector of a length and two angles in degrees, as `toSpherical` gives them. -/
def ofSpherical (radius theta phi : α) : Vec3 α :=
  let t := rotationOfDegrees theta
  let p := rotationOfDegrees phi
  ⟨radius * sin t * cos p, radius * sin t * sin p, radius * cos t⟩

end Length

end Vec3

end Stagecraft
