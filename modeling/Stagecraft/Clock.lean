/-
The clock: callbacks that wait for a delay to run out.

Entries stand in order of scheduling. Letting time pass counts every entry
down and answers the callbacks whose time has run out; a recurring entry is
armed again with its full interval and keeps its place, any other is
removed. The queue is complete before a callback is called, so what callbacks
do to it concerns later frames only.
-/
import Stagecraft.Fault

namespace Stagecraft

/-- A callback that waits. The interval of a call that happens once is 0. -/
structure ScheduledCall (κ α : Type) where
  callback : κ
  remaining : α
  interval : α
  deriving DecidableEq, Repr

namespace ScheduledCall

variable {κ α : Type} [Scalar α]

def isRecurring (c : ScheduledCall κ α) : Bool := decide ((0.0 : α) < c.interval)

def isDue (c : ScheduledCall κ α) : Bool := decide (c.remaining ≤ 0.0)

def countDown (dt : α) (c : ScheduledCall κ α) : ScheduledCall κ α :=
  { c with remaining := c.remaining - dt }

/-- What stays in the queue of an entry that was counted down. -/
def rearm? (c : ScheduledCall κ α) : Option (ScheduledCall κ α) :=
  if c.isDue then
    if c.isRecurring then some { c with remaining := c.interval } else none
  else some c

end ScheduledCall

/-- The waiting callbacks in order of scheduling. -/
structure Clock (κ α : Type) where
  queue : List (ScheduledCall κ α) := []

namespace Clock

variable {κ α : Type}

def empty : Clock κ α := {}

def count [DecidableEq κ] (q : Clock κ α) (c : κ) : Nat :=
  q.queue.countP fun e => e.callback == c

/-- Drops every entry of a callback. -/
def unschedule [DecidableEq κ] (q : Clock κ α) (c : κ) : Clock κ α :=
  ⟨q.queue.filter fun e => e.callback != c⟩

variable [Scalar α]

/-- Calls once after a delay. -/
def schedule (q : Clock κ α) (c : κ) (delay : α) : Except (Fault α) (Clock κ α) :=
  (ensurePositive "delay" delay).map fun delay => ⟨q.queue ++ [⟨c, delay, 0.0⟩]⟩

/-- Calls once after a delay, in place of every entry of the same callback. -/
def scheduleUnique [DecidableEq κ] (q : Clock κ α) (c : κ) (delay : α) :
    Except (Fault α) (Clock κ α) :=
  (ensurePositive "delay" delay).map fun delay =>
    ⟨(q.unschedule c).queue ++ [⟨c, delay, 0.0⟩]⟩

/-- Calls after every interval. -/
def scheduleInterval (q : Clock κ α) (c : κ) (interval : α) : Except (Fault α) (Clock κ α) :=
  (ensurePositive "interval" interval).map fun interval =>
    ⟨q.queue ++ [⟨c, interval, interval⟩]⟩

/-- The entries after counting down. -/
def counted (q : Clock κ α) (dt : α) : List (ScheduledCall κ α) :=
  q.queue.map (ScheduledCall.countDown dt)

/-- The callbacks whose time runs out within `dt`, in order of scheduling. -/
def due (q : Clock κ α) (dt : α) : List κ :=
  ((q.counted dt).filter ScheduledCall.isDue).map ScheduledCall.callback

/-- The queue after `dt` has passed. -/
def advance (q : Clock κ α) (dt : α) : Clock κ α := ⟨(q.counted dt).filterMap ScheduledCall.rearm?⟩

end Clock

end Stagecraft
