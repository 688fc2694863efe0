/-
What handlers do in a frame, written down.

The passes of a frame enter handlers: one for each due callback and one
for each finished tween. A handler here may change the host state at
will and then makes a list of calls on the queues, and both may depend
on the world that it finds (`Behaviour`). As a call leaves a world that
follows from the one it finds, a handler that looks at the world again
between two calls decides nothing that this list could not have said.

# The recorder

The record is kept by the handlers themselves. A host that has a record
beside its own state (`Recorded`) lets each handler write down that it
was entered, and each call that it makes, with the world found
(`Behaviour.recorded`). So a record tells what the passes really did,
and recording changes nothing else: a frame with the recorder is the
frame without, and a record (`foldl_meet_recorded`).
-/
import Stagecraft.Game
import Stagecraft.Proofs.Frame.QueueCall

namespace Stagecraft

variable {κ σ α : Type}

-- ============================================================= the deeds

/-- What a handler is entered for. -/
inductive Occasion (κ : Type) where
  | call (c : κ)
  | announce (id : TweenId)

/-- What a handler does: it is entered, and it makes calls on the queues. -/
inductive Act (κ α : Type) where
  | enter (o : Occasion κ)
  | queue (call : QueueCall κ α)

/-- An act, and the world that it finds. -/
structure Deed (κ σ α : Type) where
  act : Act κ α
  world : World κ σ α

namespace Deed

def occasion? (d : Deed κ σ α) : Option (Occasion κ) :=
  match d.act with
  | .enter o => some o
  | .queue _ => none

def queueCall? (d : Deed κ σ α) : Option (QueueCall κ α) :=
  match d.act with
  | .enter _ => none
  | .queue call => some call

end Deed

/-- What handlers were entered for, in order. -/
def occasions (ds : List (Deed κ σ α)) : List (Occasion κ) := ds.filterMap Deed.occasion?

/-- The calls that handlers made, in order. -/
def queueCalls (ds : List (Deed κ σ α)) : List (QueueCall κ α) := ds.filterMap Deed.queueCall?

theorem occasions_append (ds es : List (Deed κ σ α)) :
    occasions (ds ++ es) = occasions ds ++ occasions es :=
  List.filterMap_append

theorem queueCalls_append (ds es : List (Deed κ σ α)) :
    queueCalls (ds ++ es) = queueCalls ds ++ queueCalls es :=
  List.filterMap_append

-- ========================================================== the handlers

/-- What handlers do: the host state that they leave, and the calls on the
queues that they make then. -/
structure Behaviour (κ σ α : Type) where
  host : Occasion κ → World κ σ α → σ
  calls : Occasion κ → World κ σ α → List (QueueCall κ α)

/-- A host with a record of what handlers did. -/
structure Recorded (κ σ α : Type) where
  host : σ
  record : List (Deed κ σ α)

instance [Journal (Notice κ α) σ] : Journal (Notice κ α) (Recorded κ σ α) :=
  ⟨fun n r => { r with host := Journal.note n r.host }⟩

namespace World

/-- A world with another host. -/
def withHost {τ : Type} (w : World κ σ α) (host : τ) : World κ τ α :=
  ⟨w.time, w.config, w.clock, w.tweens, w.gallery, w.stage, host⟩

/-- A world with a record. -/
def recorded (w : World κ σ α) (record : List (Deed κ σ α)) : World κ (Recorded κ σ α) α :=
  w.withHost ⟨w.host, record⟩

/-- A world without its record. -/
def plain (w : World κ (Recorded κ σ α) α) : World κ σ α := w.withHost w.host.host

@[simp]
theorem plain_recorded (w : World κ σ α) (record : List (Deed κ σ α)) :
    (w.recorded record).plain = w := rfl

/-- Writes down an act. -/
def jot (w : World κ (Recorded κ σ α) α) (act : Act κ α) : World κ (Recorded κ σ α) α :=
  w.plain.recorded (w.host.record ++ [⟨act, w.plain⟩])

end World

section Handlers

variable [Elementary α] [DecidableEq κ] [Journal (Notice κ α) σ]

/-- Writes down a call and makes it. -/
def QueueCall.applyRecorded (w : World κ (Recorded κ σ α) α) (call : QueueCall κ α) :
    World κ (Recorded κ σ α) α :=
  call.apply (w.jot (.queue call))

namespace Behaviour

variable (b : Behaviour κ σ α)

/-- The world that a handler leaves. -/
def body (o : Occasion κ) (w : World κ σ α) : World κ σ α :=
  (b.calls o w).foldl QueueCall.apply (w.withHost (b.host o w))

def handlers : Handlers κ σ α where
  call c := b.body (.call c)
  finished id := b.body (.announce id)

/-- A handler that does the same and writes it down. -/
def recordedBody (o : Occasion κ) (w : World κ (Recorded κ σ α) α) :
    World κ (Recorded κ σ α) α :=
  (b.calls o w.plain).foldl QueueCall.applyRecorded
    ((w.plain.withHost (b.host o w.plain)).recorded (w.jot (.enter o)).host.record)

def recorded : Handlers κ (Recorded κ σ α) α where
  call c := b.recordedBody (.call c)
  finished id := b.recordedBody (.announce id)

/-- The calls that follow a deed: those of the handler, if one is entered. -/
def callsAt (d : Deed κ σ α) : List (QueueCall κ α) :=
  match d.act with
  | .enter o => b.calls o d.world
  | .queue _ => []

end Behaviour

-- ============================================================ the record

/-- The deeds of a list of calls. -/
def QueueCall.deeds (w : World κ σ α) : List (QueueCall κ α) → List (Deed κ σ α)
  | [] => []
  | call :: rest => ⟨.queue call, w⟩ :: deeds (call.apply w) rest

/-- The world in which the handler for an occasion is entered. -/
def World.entered (w : World κ σ α) : Occasion κ → World κ σ α
  | .call _ => w
  | .announce id => w.note (.tweenFinished id)

/-- The world after an occasion, which the passes meet in this way. -/
def World.meet (h : Handlers κ σ α) (w : World κ σ α) : Occasion κ → World κ σ α
  | .call c => h.call c w
  | .announce id => w.announce h id

namespace Behaviour

variable (b : Behaviour κ σ α)

/-- The deeds on an occasion. -/
def deedsOn (w : World κ σ α) (o : Occasion κ) : List (Deed κ σ α) :=
  ⟨.enter o, w.entered o⟩ ::
    QueueCall.deeds ((w.entered o).withHost (b.host o (w.entered o))) (b.calls o (w.entered o))

/-- The deeds on a list of occasions. -/
def deeds (w : World κ σ α) : List (Occasion κ) → List (Deed κ σ α)
  | [] => []
  | o :: rest => b.deedsOn w o ++ deeds (w.meet b.handlers o) rest

end Behaviour

omit [Elementary α] [DecidableEq κ] in
/-- Notices are told the host and leave the record alone. -/
private theorem tell_recorded (ns : List (Notice κ α)) (host : σ) (record : List (Deed κ σ α)) :
    tell ns (⟨host, record⟩ : Recorded κ σ α) = ⟨tell ns host, record⟩ := by
  induction ns generalizing host with
  | nil => rfl
  | cons n rest ih => exact ih (Journal.note n host)

/-- A call does not look at the record. -/
theorem QueueCall.apply_recorded (w : World κ σ α) (record : List (Deed κ σ α))
    (call : QueueCall κ α) : call.apply (w.recorded record) = (call.apply w).recorded record := by
  rw [apply_eq, apply_eq]
  have hhost : tell (call.notes (w.recorded record)) (w.recorded record).host
      = (⟨tell (call.notes w) w.host, record⟩ : Recorded κ σ α) := by
    have hnotes : call.notes (w.recorded record) = call.notes w := by
      cases call <;> rfl
    rw [hnotes]
    exact tell_recorded (call.notes w) w.host record
  rw [hhost]
  cases call <;> rfl

theorem foldl_applyRecorded (calls : List (QueueCall κ α)) (w : World κ σ α)
    (record : List (Deed κ σ α)) :
    calls.foldl QueueCall.applyRecorded (w.recorded record)
      = (calls.foldl QueueCall.apply w).recorded (record ++ QueueCall.deeds w calls) := by
  induction calls generalizing w record with
  | nil =>
      rw [QueueCall.deeds, List.append_nil]
      rfl
  | cons call rest ih =>
      have hcall : QueueCall.applyRecorded (w.recorded record) call
          = (call.apply w).recorded (record ++ [⟨.queue call, w⟩]) :=
        QueueCall.apply_recorded w _ call
      rw [List.foldl_cons, List.foldl_cons, hcall, ih, QueueCall.deeds, List.append_assoc]
      rfl

/-- A recorder meets an occasion as the handlers do, and the record grows by
their deeds. -/
theorem meet_recorded (b : Behaviour κ σ α) (w : World κ σ α) (record : List (Deed κ σ α))
    (o : Occasion κ) :
    (w.recorded record).meet b.recorded o
      = (w.meet b.handlers o).recorded (record ++ b.deedsOn w o) := by
  have hbody : ∀ v : World κ σ α, b.recordedBody o (v.recorded record)
      = (b.body o v).recorded (record ++ ⟨.enter o, v⟩ ::
          QueueCall.deeds (v.withHost (b.host o v)) (b.calls o v)) := by
    intro v
    refine (foldl_applyRecorded (b.calls o v) _ (record ++ [⟨.enter o, v⟩])).trans ?_
    rw [List.append_assoc]
    rfl
  cases o with
  | call c => exact hbody w
  | announce id => exact hbody (w.note (.tweenFinished id))

/-- Recording changes nothing but the record. -/
theorem foldl_meet_recorded (b : Behaviour κ σ α) (os : List (Occasion κ)) (w : World κ σ α)
    (record : List (Deed κ σ α)) :
    os.foldl (World.meet b.recorded) (w.recorded record)
      = (os.foldl (World.meet b.handlers) w).recorded (record ++ b.deeds w os) := by
  induction os generalizing w record with
  | nil =>
      rw [Behaviour.deeds, List.append_nil]
      rfl
  | cons o rest ih =>
      rw [List.foldl_cons, List.foldl_cons, meet_recorded, ih, Behaviour.deeds, List.append_assoc]

/-- Calls are recorded one for one, and no handler is entered by a call. -/
private theorem deeds_parts (w : World κ σ α) (calls : List (QueueCall κ α)) :
    occasions (QueueCall.deeds w calls) = [] ∧ queueCalls (QueueCall.deeds w calls) = calls
      ∧ ∀ b : Behaviour κ σ α, (QueueCall.deeds w calls).flatMap b.callsAt = [] := by
  induction calls generalizing w with
  | nil => exact ⟨rfl, rfl, fun _ => rfl⟩
  | cons call rest ih =>
      obtain ⟨hoccasions, hcalls, hnone⟩ := ih (call.apply w)
      refine ⟨hoccasions, congrArg (call :: ·) hcalls, fun b => ?_⟩
      exact hnone b

/-- Handlers are entered for each occasion once, in order. -/
theorem occasions_deeds (b : Behaviour κ σ α) (w : World κ σ α) (os : List (Occasion κ)) :
    occasions (b.deeds w os) = os := by
  induction os generalizing w with
  | nil => rfl
  | cons o rest ih =>
      have hone : occasions (b.deedsOn w o) = [o] := congrArg (o :: ·) (deeds_parts _ _).1
      rw [Behaviour.deeds, occasions_append, hone, ih]
      rfl

/-- The calls that are made are those of the handlers that are entered. -/
theorem queueCalls_deeds (b : Behaviour κ σ α) (w : World κ σ α) (os : List (Occasion κ)) :
    queueCalls (b.deeds w os) = (b.deeds w os).flatMap b.callsAt := by
  induction os generalizing w with
  | nil => rfl
  | cons o rest ih =>
      have hone : queueCalls (b.deedsOn w o) = (b.deedsOn w o).flatMap b.callsAt := by
        unfold Behaviour.deedsOn
        obtain ⟨-, hcalls, hnone⟩ := deeds_parts (σ := σ)
          ((w.entered o).withHost (b.host o (w.entered o))) (b.calls o (w.entered o))
        rw [List.flatMap_cons, hnone, List.append_nil]
        exact hcalls
      rw [Behaviour.deeds, queueCalls_append, List.flatMap_append, hone, ih]

end Handlers

end Stagecraft
