/-
The JSON forms of vectors, rectangles, anchor points, easings and attribute
values.

A structure is written as an object with its fields in order, and is read
from an object with its fields in any order and other members beside them, or
from an array of exactly its fields. Each field is there once. A finite number
is written in the fewest digits to which it is the nearest double, while
reading rounds more than once and may end beside it; what is not finite is
written as null, which no number is read from.
-/
import Stagecraft.Json.Value
import Stagecraft.Decimal.Style
import Stagecraft.Attribute
import Stagecraft.Easing

namespace Stagecraft

namespace Json

-- =============================================================== writing

/-- Numbers have a point, and a power of ten with its sign from 10 ^ 16 on and
below 10 ^ -5; of two decimals that are equally near the even one is written. -/
def numberStyle : Decimal.Style := ⟨fun e => decide (-5 ≤ e ∧ e < 16), true, true, .even⟩

def writeNumber (x : Float) : String :=
  if Scalar.isFinite x then numberStyle.render x else "null"

/-- A key or name that needs no escapes. -/
def writeName (name : String) : String := "\"" ++ name ++ "\""

def writeArray (items : List String) : String := "[" ++ ",".intercalate items ++ "]"

def writeObject (members : List (String × String)) : String :=
  "\x7b" ++ ",".intercalate (members.map fun p => writeName p.1 ++ ":" ++ p.2) ++ "\x7d"

/-- A structure of numbers with these field names. -/
def writeRecord (names : List String) (values : List Float) : String :=
  writeObject (names.zip (values.map writeNumber))

-- =============================================================== reading

/-- The double that a number is read as, if the number is not beyond all doubles. -/
def number? : Json → Option Float
  | number n => n.quick?
  | _ => none

/-- The only member under a key. -/
def only? (members : List (Option String × Json)) (key : String) : Option Json :=
  match members.filter fun p => p.1 == some key with
  | [p] => some p.2
  | _ => none

/-- The numbers of a structure with these field names. -/
def record? (names : List String) : Json → Option (List Float)
  | array items => if items.length = names.length then items.mapM number? else none
  | object members =>
    if members.any fun p => p.1.isNone then none
    else names.mapM fun name => (only? members name).bind number?
  | _ => none

/-- The name of a case without arguments: a string, or an object whose only
member has that key and is null. -/
def case? : Json → Option String
  | string text => text
  | object [(key, null)] => key
  | _ => none

end Json

open Json

-- ============================================== vectors and rectangles

namespace Vec2

def fields : List String := ["x", "y"]

def toJson (v : Vec2 Float) : String := writeRecord fields [v.x, v.y]

def ofJson? (j : Json) : Option (Vec2 Float) :=
  match record? fields j with
  | some [x, y] => some ⟨x, y⟩
  | _ => none

end Vec2

namespace Vec3

def fields : List String := ["x", "y", "z"]

def toJson (v : Vec3 Float) : String := writeRecord fields [v.x, v.y, v.z]

def ofJson? (j : Json) : Option (Vec3 Float) :=
  match record? fields j with
  | some [x, y, z] => some ⟨x, y, z⟩
  | _ => none

end Vec3

namespace Rect

def fields : List String := ["x", "y", "width", "height"]

def toJson (r : Rect Float) : String := writeRecord fields [r.x, r.y, r.width, r.height]

def ofJson? (j : Json) : Option (Rect Float) :=
  match record? fields j with
  | some [x, y, width, height] => some ⟨x, y, width, height⟩
  | _ => none

end Rect

-- ========================================== anchor points and easings

namespace AnchorPoint

/-- The name of the case, which unlike the anchor's name has capitals. -/
def caseName : AnchorPoint → String
  | topLeft => "TopLeft"
  | midTop => "MidTop"
  | topRight => "TopRight"
  | midLeft => "MidLeft"
  | center => "Center"
  | midRight => "MidRight"
  | bottomLeft => "BottomLeft"
  | midBottom => "MidBottom"
  | bottomRight => "BottomRight"

def toJson (p : AnchorPoint) : String := writeName p.caseName

def ofJson? (j : Json) : Option AnchorPoint :=
  (case? j).bind fun name => all.find? fun p => p.caseName == name

end AnchorPoint

namespace Easing

def toJson (e : Easing) : String := writeName e.name

def ofJson? (j : Json) : Option Easing :=
  (case? j).bind fun name => all.find? fun e => e.name == name

end Easing

-- ====================================================== attribute values

namespace AttrValue

def toJson : AttrValue Float → String
  | scalar v => writeNumber v
  | array vs => writeArray (vs.map writeNumber)

def ofJson? : Json → Option (AttrValue Float)
  | .number n => (number? (.number n)).map scalar
  | .array items => (items.mapM number?).map array
  | _ => none

end AttrValue

end Stagecraft
