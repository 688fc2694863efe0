/-
How tweens over doubles describe themselves.

The description of a tween leaves out its puppet, and every callback has the
same description.
-/
import Stagecraft.Notice

namespace Stagecraft

-- ================================================================= parts

/-- A double inside a description. -/
def descriptionOf (x : Float) : String := Decimal.Style.descriptive.render x

/-- Items between square brackets. -/
def listText (items : List String) : String := "[" ++ ", ".intercalate items ++ "]"

/-- The name of the curve inside a description. -/
def Easing.caseName : Easing → String
  | linear => "Linear"
  | accelerate => "Accelerate"
  | decelerate => "Decelerate"
  | accelDecel => "AccelDecel"
  | inElastic => "InElastic"
  | outElastic => "OutElastic"
  | inOutElastic => "InOutElastic"
  | bounceEnd => "BounceEnd"
  | bounceStart => "BounceStart"
  | bounceStartEnd => "BounceStartEnd"

def AttrValue.describe : AttrValue Float → String
  | scalar v => "Scalar(" ++ descriptionOf v ++ ")"
  | array vs => "Array(" ++ listText (vs.map descriptionOf) ++ ")"

-- ================================================================ tweens

def Track.describe (t : Track Float) : String :=
  "TrackedAttribute \x7b name: " ++ Text.quote t.name ++ ", start: " ++ t.start.describe ++
    ", end: " ++ t.stop.describe ++ " \x7d"

def Tween.describe {κ : Type} (t : Tween κ Float) : String :=
  "Tween \x7b attributes: " ++ listText (t.tracks.map Track.describe) ++
    ", elapsed: " ++ descriptionOf t.elapsed ++ ", duration: " ++ descriptionOf t.duration ++
    ", easing: " ++ t.easing.caseName ++
    ", on_complete: " ++ optionText (fun s => s) (t.onComplete.map fun _ => callbackText) ++ " \x7d"

end Stagecraft
