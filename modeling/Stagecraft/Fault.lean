/-
What can go wrong, as causes.

A fault is of the kind `type` when a value of the wrong sort was given, of
the kind `range` when the sort was right and the value was not, and of the
kind `io` when a configuration or a manifest could not be used. Its wording
stands in `Fault/Message.lean`, since only a fault over doubles has one.
-/
import Stagecraft.Scalar

namespace Stagecraft

inductive FaultKind where
  | type
  | range
  | io
  deriving DecidableEq, Repr

/-- The causes of failure, over the scalars of the values they report. -/
inductive Fault (α : Type) where
  /-- The argument called `what` is no number. -/
  | notANumber (what : String)
  /-- The argument called `what` is zero, negative or infinite. -/
  | notPositive (what : String) (value : α)
  /-- A vector of length zero was asked to do `deed`. -/
  | zeroLength (deed : String)
  | unknownEasing (name : String)
  /-- No anchor has this name; `expected` lists the ones there are. -/
  | unknownAnchor (name expected : String)
  | unknownImage (name : String)
  /-- `length` bytes are not the pixels of a surface of this size. -/
  | invalidBuffer (length width height : Nat)
  | config (reason : String)
  | manifest (reason : String)
  deriving Repr

namespace Fault

variable {α : Type}

def kind : Fault α → FaultKind
  | notANumber _ => .type
  | config _ | manifest _ => .io
  | _ => .range

end Fault

open Scalar in
/-- The value itself, when it is a finite number above zero. -/
def ensurePositive {α : Type} [Scalar α] (what : String) (value : α) : Except (Fault α) α :=
  if !isNumber value then .error (.notANumber what)
  else if value ≤ 0.0 ∨ isFinite value = false then .error (.notPositive what value)
  else .ok value

end Stagecraft
