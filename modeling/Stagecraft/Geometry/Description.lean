/-
How vectors and rectangles over doubles describe themselves.
-/
import Stagecraft.Geometry.Vec2
import Stagecraft.Geometry.Vec3
import Stagecraft.Geometry.Rect
import Stagecraft.Fault.Message

namespace Stagecraft

open Fault (amount)

def Vec2.describe (v : Vec2 Float) : String :=
  "<Vector2(" ++ amount v.x ++ ", " ++ amount v.y ++ ")>"

def Vec3.describe (v : Vec3 Float) : String :=
  "<Vector3(" ++ amount v.x ++ ", " ++ amount v.y ++ ", " ++ amount v.z ++ ")>"

def Rect.describe (r : Rect Float) : String :=
  "\x7bx: " ++ amount r.x ++ ", y: " ++ amount r.y ++ ", width: " ++ amount r.width ++
    ", height: " ++ amount r.height ++ "\x7d"

end Stagecraft
