/-
The wording of faults over doubles.
-/
import Stagecraft.Fault
import Stagecraft.Decimal.Style

namespace Stagecraft.Fault

/-- A double inside a message. -/
def amount (x : Float) : String := Decimal.Style.plain.render x

def message : Fault Float → String
  | notANumber what => what ++ " must be a number"
  | notPositive what value => what ++ " must be a positive number, got " ++ amount value
  | zeroLength deed => "can't " ++ deed ++ " a vector of length zero"
  | unknownEasing name => "unrecognized tween function \"" ++ name ++ "\""
  | unknownAnchor name expected =>
    "unknown anchor \"" ++ name ++ "\", must be one of " ++ expected
  | unknownImage name => "unknown image \"" ++ name ++ "\""
  | invalidBuffer length width height =>
    "pixel buffer of " ++ toString length ++ " bytes does not fit a " ++ toString width ++ "x" ++
      toString height ++ " surface"
  | config reason => "config error: " ++ reason
  | manifest reason => "manifest error: " ++ reason

end Stagecraft.Fault
