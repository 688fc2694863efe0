/-
Stories: what happens in a run, one thing after the other.

A run is told by its steps, and a frame is one of them, though much happens
in it. A story leaves nothing out: a frame begins, the clock is counted
down, the tweens are moved, handlers are entered and make edits, and
between frames there are edits, notices and resets. Each of these does one
thing to the world (`Happening.apply`), and what is found when it happens
is what those before it have made of the first world (`World.after`).
So what is said of a moment in a run is said of a list that is cut in two,
and whatever each happening keeps, a run keeps.

# Where the story comes from

The story of a run is written down from the lists that the passes go by and
from the script (`Game.story`). Two facts make it the story of that run and
of no other: it leads to the world at the end (`Game.world_run`), and
handlers that take down each entry themselves take down the entries of the
story, with the worlds found (`Game.tick_watched`).

# What was reported

Handlers are entered for what two happenings find: the clock when it is
counted down, the tweens when they are moved. Over a whole run the
announcements are the tweens that finished, in order (`announced_story`),
and the calls are those that were due and those of the tweens that finished
(`called_story`).
-/
import Stagecraft.Proofs.Game.Runs

namespace Stagecraft

variable {κ σ α β : Type}

-- ========================================================== the happenings

/-- What can happen in a run. -/
inductive Happening (κ σ α : Type) where
  /-- A frame lets its delta pass and looks at the configuration. -/
  | frame (dt : α)
  /-- The clock is counted down by the frame's delta. -/
  | count
  /-- The tweens are moved on by the frame's delta. -/
  | move
  | enter (o : Occasion κ)
  | edit (e : Edit κ σ α)
  | tell (n : Notice κ α)
  | reset

def Happening.occasion? : Happening κ σ α → Option (Occasion κ)
  | enter o => some o
  | _ => none

def Occasion.call? : Occasion κ → Option κ
  | call c => some c
  | announce _ => none

def Occasion.announced? : Occasion κ → Option TweenId
  | call _ => none
  | announce id => some id

/-- What handlers are entered for, in order. -/
def entered (hs : List (Happening κ σ α)) : List (Occasion κ) := hs.filterMap Happening.occasion?

/-- The callbacks that are called. -/
def called (hs : List (Happening κ σ α)) : List κ := (entered hs).filterMap Occasion.call?

/-- The numbers that are announced. -/
def announced (hs : List (Happening κ σ α)) : List TweenId :=
  (entered hs).filterMap Occasion.announced?

theorem entered_append (hs more : List (Happening κ σ α)) :
    entered (hs ++ more) = entered hs ++ entered more := List.filterMap_append

theorem called_append (hs more : List (Happening κ σ α)) :
    called (hs ++ more) = called hs ++ called more := by
  unfold called
  rw [entered_append, List.filterMap_append]

theorem announced_append (hs more : List (Happening κ σ α)) :
    announced (hs ++ more) = announced hs ++ announced more := by
  unfold announced
  rw [entered_append, List.filterMap_append]

variable [Elementary α] [DecidableEq κ] [Journal (Notice κ α) σ]

def Happening.apply (w : World κ σ α) : Happening κ σ α → World κ σ α
  | frame dt => (w.updateTime dt).applyConfig
  | count => w.counted
  | move => w.moved
  | enter _ => w
  | edit e => e.apply w
  | tell n => w.note n
  | reset => (⟨w, false⟩ : Game κ σ α).reset.world

namespace World

/-- The world after a list of happenings. -/
def after (w : World κ σ α) (hs : List (Happening κ σ α)) : World κ σ α :=
  hs.foldl Happening.apply w

theorem after_append (w : World κ σ α) (hs more : List (Happening κ σ α)) :
    w.after (hs ++ more) = (w.after hs).after more := List.foldl_append

/-- What each happening gives, in the world that it finds, put in order. -/
def gather (f : World κ σ α → Happening κ σ α → List β) (w : World κ σ α) :
    List (Happening κ σ α) → List β
  | [] => []
  | h :: hs => f w h ++ gather f (h.apply w) hs

variable {f : World κ σ α → Happening κ σ α → List β} {w : World κ σ α}
  {hs more : List (Happening κ σ α)}

theorem gather_append (f : World κ σ α → Happening κ σ α → List β) (w : World κ σ α)
    (hs more : List (Happening κ σ α)) :
    w.gather f (hs ++ more) = w.gather f hs ++ (w.after hs).gather f more := by
  induction hs generalizing w with
  | nil => rfl
  | cons h hs ih =>
      show f w h ++ gather f (h.apply w) (hs ++ more) = _
      rw [ih, ← List.append_assoc]
      rfl

theorem gather_eq_nil (h : ∀ x ∈ hs, ∀ v, f v x = []) : w.gather f hs = [] := by
  induction hs generalizing w with
  | nil => rfl
  | cons x hs ih =>
      rw [List.forall_mem_cons] at h
      show f w x ++ gather f (x.apply w) hs = []
      rw [h.1 w, ih h.2]
      rfl

theorem mem_gather {b : β} :
    b ∈ w.gather f hs ↔ ∃ pre h post, hs = pre ++ h :: post ∧ b ∈ f (w.after pre) h := by
  constructor
  · intro hb
    induction hs generalizing w with
    | nil => exact absurd hb List.not_mem_nil
    | cons x hs ih =>
        rcases List.mem_append.1 hb with hhead | htail
        · exact ⟨[], x, hs, rfl, hhead⟩
        · obtain ⟨pre, h, post, rfl, hfound⟩ := ih htail
          exact ⟨x :: pre, h, post, rfl, hfound⟩
  · rintro ⟨pre, h, post, rfl, hb⟩
    rw [gather_append]
    exact List.mem_append_right _ (List.mem_append_left _ hb)

/-- What holds of a world, and outlasts each happening, holds after all of them. -/
theorem after_induct {P : World κ σ α → Prop} (hw : P w)
    (hstep : ∀ v, ∀ h ∈ hs, P v → P (h.apply v)) : P (w.after hs) :=
  List.foldlRecOn hs Happening.apply hw fun v hv h hh => hstep v h hh hv

end World

-- ============================================================ the handlers

/-- How a handler is entered: an announcement is told first. -/
def Occasion.entering : Occasion κ → List (Happening κ σ α)
  | call c => [.enter (.call c)]
  | announce id => [.tell (.tweenFinished id), .enter (.announce id)]

namespace Script

variable (script : Script κ σ α)

/-- What happens on an occasion. -/
def visit (w : World κ σ α) (o : Occasion κ) : List (Happening κ σ α) :=
  o.entering ++ (script.edits o (w.entered o)).map .edit

/-- What happens on a list of occasions. -/
def visits (w : World κ σ α) : List (Occasion κ) → List (Happening κ σ α)
  | [] => []
  | o :: os => script.visit w o ++ visits (w.meet script.handlers o) os

def clockPass (w : World κ σ α) : List (Happening κ σ α) :=
  .count :: script.visits w.counted w.dueCalls

def tweenPass (w : World κ σ α) : List (Happening κ σ α) :=
  .move :: script.visits w.moved (w.completions ++ w.announcements)

variable {script}

theorem after_visit (w : World κ σ α) (o : Occasion κ) :
    w.after (script.visit w o) = w.meet script.handlers o := by
  unfold World.after visit
  rw [List.foldl_append, List.foldl_map]
  cases o <;> rfl

theorem after_visits (w : World κ σ α) (os : List (Occasion κ)) :
    w.after (script.visits w os) = os.foldl (World.meet script.handlers) w := by
  induction os generalizing w with
  | nil => rfl
  | cons o os ih =>
      unfold visits
      rw [World.after_append, after_visit, ih]
      rfl

theorem entered_visits (w : World κ σ α) (os : List (Occasion κ)) :
    entered (script.visits w os) = os := by
  induction os generalizing w with
  | nil => rfl
  | cons o os ih =>
      have hedits (es : List (Edit κ σ α)) : entered (es.map .edit) = [] := by
        unfold entered
        rw [List.filterMap_map]
        exact List.filterMap_eq_nil_iff.2 fun _ _ => rfl
      have hone : entered (script.visit w o) = [o] := by
        unfold visit
        rw [entered_append, hedits]
        cases o <;> rfl
      unfold visits
      rw [entered_append, hone, ih]
      rfl

/-- Handlers are told, entered, and make edits, and that is all. -/
theorem of_mem_visits {w : World κ σ α} {os : List (Occasion κ)} {h : Happening κ σ α}
    (hh : h ∈ script.visits w os) :
    (∃ o, h = .enter o) ∨ (∃ n, h = .tell n) ∨ ∃ e, h = .edit e := by
  induction os generalizing w with
  | nil => exact absurd hh List.not_mem_nil
  | cons o os ih =>
      rcases List.mem_append.1 hh with hvisit | hrest
      · rcases List.mem_append.1 hvisit with henter | hedit
        · cases o with
          | call c => exact .inl ⟨_, List.mem_singleton.1 henter⟩
          | announce id =>
              rcases List.mem_cons.1 henter with rfl | hlast
              · exact .inr (.inl ⟨_, rfl⟩)
              · exact .inl ⟨_, List.mem_singleton.1 hlast⟩
        · obtain ⟨e, -, rfl⟩ := List.mem_map.1 hedit
          exact .inr (.inr ⟨e, rfl⟩)
      · exact ih hrest

theorem after_clockPass (w : World κ σ α) :
    w.after (script.clockPass w) = w.updateClock script.handlers := by
  rw [World.updateClock_eq]
  exact after_visits w.counted w.dueCalls

theorem after_tweenPass (w : World κ σ α) :
    w.after (script.tweenPass w) = w.updateTweens script.handlers := by
  rw [World.updateTweens_eq, ← List.foldl_append]
  exact after_visits w.moved _

end Script

-- =============================================================== the story

namespace Game

variable (script : Script κ σ α)

/-- What happens in a step of a run. -/
def happenings (g : Game κ σ α) : Step κ σ α → List (Happening κ σ α)
  | .tick dt =>
    .frame (if g.paused then 0.0 else dt) :: script.clockPass (g.begun dt) ++
      script.tweenPass ((g.begun dt).updateClock script.handlers)
  | .pause => if g.paused then [] else [.tell (.gamePaused g.world.time.frameCount)]
  | .resume => if g.paused then [.tell (.gameResumed g.world.time.frameCount)] else []
  | .reset => [.reset]
  | .edit e => [.edit e]

/-- What happens in a run. -/
def story (g : Game κ σ α) : List (Step κ σ α) → List (Happening κ σ α)
  | [] => []
  | s :: steps => g.happenings script s ++ (g.step script s).story steps

theorem world_step (g : Game κ σ α) (s : Step κ σ α) :
    (g.step script s).world = g.world.after (g.happenings script s) := by
  cases s with
  | tick dt =>
      show (g.tick script.handlers dt).world
        = ((g.begun dt).after (script.clockPass (g.begun dt) ++ script.tweenPass _))
      rw [World.after_append, Script.after_clockPass, Script.after_tweenPass, world_tick]
  | pause =>
      show g.pause.world = g.world.after (if g.paused then _ else _)
      unfold pause
      split <;> rfl
  | resume =>
      show g.resume.world = g.world.after (if g.paused then _ else _)
      unfold resume
      split <;> rfl
  | reset => rfl
  | edit e => rfl

/-- The story of a run leads to its end. -/
theorem world_run (g : Game κ σ α) (steps : List (Step κ σ α)) :
    (g.run script steps).world = g.world.after (g.story script steps) := by
  induction steps generalizing g with
  | nil => rfl
  | cons s steps ih =>
      rw [run_cons, ih, world_step]
      exact (World.after_append _ _ _).symm

/-- When a step moves the tweens, handlers are entered for all that it finds. -/
private theorem happenings_move {g : Game κ σ α} {s : Step κ σ α}
    {pre post : List (Happening κ σ α)}
    (h : g.happenings script s = pre ++ .move :: post) :
    post = script.visits (g.world.after pre).moved
      ((g.world.after pre).completions ++ (g.world.after pre).announcements) := by
  have hmem : .move ∈ g.happenings script s :=
    h ▸ List.mem_append_right _ List.mem_cons_self
  cases s with
  | tick dt =>
      have hvisits (w : World κ σ α) (os : List (Occasion κ)) : .move ∉ script.visits w os := by
        intro hmove
        obtain ⟨o, ho⟩ | ⟨n, hn⟩ | ⟨e, he⟩ := Script.of_mem_visits hmove
        · cases ho
        · cases hn
        · cases he
      have hclock : .move ∉ (.frame (if g.paused then 0.0 else dt) : Happening κ σ α) ::
          script.clockPass (g.begun dt) := by
        unfold Script.clockPass
        simp only [List.mem_cons, reduceCtorEq, false_or]
        exact hvisits _ _
      obtain ⟨rfl, -, rfl⟩ := (List.append_cons_inj_of_notMem hclock (hvisits _ _)).1 h
      have hfound : g.world.after (.frame (if g.paused then 0.0 else dt) ::
          script.clockPass (g.begun dt)) = (g.begun dt).updateClock script.handlers :=
        Script.after_clockPass _
      rw [hfound]
  | pause | resume =>
      unfold happenings at hmem
      dsimp only at hmem
      split at hmem <;> simp at hmem
  | reset | edit e => cases List.mem_singleton.1 hmem

/-- In a run, handlers are entered for what a pass finds as soon as the tweens are
moved. -/
theorem story_move {g : Game κ σ α} {steps : List (Step κ σ α)} {pre post : List (Happening κ σ α)}
    (h : g.story script steps = pre ++ .move :: post) :
    ∃ rest, post = script.visits (g.world.after pre).moved
      ((g.world.after pre).completions ++ (g.world.after pre).announcements) ++ rest := by
  induction steps generalizing g pre with
  | nil => cases pre <;> cases h
  | cons s steps ih =>
      have hlater {behind : List (Happening κ σ α)}
          (hrest : (g.step script s).story script steps = behind ++ .move :: post) :
          ∃ rest, post = script.visits (g.world.after (g.happenings script s ++ behind)).moved
            ((g.world.after (g.happenings script s ++ behind)).completions
              ++ (g.world.after (g.happenings script s ++ behind)).announcements) ++ rest := by
        rw [World.after_append, ← world_step]
        exact ih hrest
      -- the cut is behind this step, right at its end, or in it
      rcases List.append_eq_append_iff.1 h with ⟨behind, rfl, hrest⟩ | ⟨more, hhere, hrest⟩
      · exact hlater hrest
      · cases more with
        | nil =>
            rw [List.append_nil] at hhere
            rw [← hhere, ← List.append_nil (g.happenings script s)]
            exact hlater hrest.symm
        | cons m more =>
            obtain ⟨rfl, rfl⟩ := List.cons_eq_cons.1 hrest
            exact ⟨_, congrArg (· ++ _) (happenings_move script hhere)⟩

end Game

-- ============================================================= the reports

namespace Happening

/-- The callbacks whose time a happening lets run out. -/
def due (w : World κ σ α) : Happening κ σ α → List κ
  | count => w.clockOrNew.due w.time.delta
  | _ => []

/-- The tweens that a happening brings to their ends. -/
def finished (w : World κ σ α) : Happening κ σ α → List (Task κ α)
  | move => w.tweensOrNew.finishing w.time.delta
  | _ => []

end Happening

namespace World

/-- The callbacks that were due, in order. -/
def dues (w : World κ σ α) : List (Happening κ σ α) → List κ := w.gather Happening.due

/-- The tweens that ran to their ends, in order. -/
def finishes (w : World κ σ α) : List (Happening κ σ α) → List (Task κ α) :=
  w.gather Happening.finished

end World

namespace Script

variable (script : Script κ σ α)

/-- Nothing runs out and nothing finishes in handlers. -/
private theorem gather_visits (w v : World κ σ α) (os : List (Occasion κ)) :
    w.dues (script.visits v os) = [] ∧ w.finishes (script.visits v os) = [] := by
  constructor
  all_goals
    refine World.gather_eq_nil fun h hh u => ?_
    obtain ⟨o, rfl⟩ | ⟨n, rfl⟩ | ⟨e, rfl⟩ := of_mem_visits hh <;> rfl

theorem gather_clockPass (w : World κ σ α) :
    w.dues (script.clockPass w) = w.clockOrNew.due w.time.delta
      ∧ w.finishes (script.clockPass w) = [] := by
  obtain ⟨hdues, hfinishes⟩ := script.gather_visits w.counted w.counted w.dueCalls
  constructor
  · show _ ++ w.counted.dues _ = _
    rw [hdues, List.append_nil]
    rfl
  · exact hfinishes

theorem gather_tweenPass (w : World κ σ α) :
    w.dues (script.tweenPass w) = []
      ∧ w.finishes (script.tweenPass w) = w.tweensOrNew.finishing w.time.delta := by
  obtain ⟨hdues, hfinishes⟩ :=
    script.gather_visits w.moved w.moved (w.completions ++ w.announcements)
  constructor
  · exact hdues
  · show _ ++ w.moved.finishes _ = _
    rw [hfinishes, List.append_nil]
    rfl

theorem entered_clockPass (w : World κ σ α) : entered (script.clockPass w) = w.dueCalls :=
  entered_visits w.counted w.dueCalls

theorem entered_tweenPass (w : World κ σ α) :
    entered (script.tweenPass w) = w.completions ++ w.announcements :=
  entered_visits w.moved _

end Script

namespace Game

variable (script : Script κ σ α)

/-- What a frame gives are the beginning and the two passes. -/
theorem gather_tick (f : World κ σ α → Happening κ σ α → List β)
    (hframe : ∀ v dt, f v (.frame dt) = []) (g : Game κ σ α) (dt : α) :
    g.world.gather f (g.happenings script (.tick dt))
      = (g.begun dt).gather f (script.clockPass (g.begun dt))
        ++ ((g.begun dt).updateClock script.handlers).gather f
          (script.tweenPass ((g.begun dt).updateClock script.handlers)) := by
  have hfirst : g.world.gather f (.frame (if g.paused then 0.0 else dt) ::
      script.clockPass (g.begun dt)) = (g.begun dt).gather f (script.clockPass (g.begun dt)) := by
    show f g.world _ ++ (g.begun dt).gather f _ = _
    rw [hframe, List.nil_append]
  refine (World.gather_append f g.world _ _).trans ?_
  rw [hfirst, ← Script.after_clockPass]
  rfl

/-- In each step, what was due is called, then what the tweens that finished have to
call, and these are announced. -/
theorem reports_happenings (g : Game κ σ α) (s : Step κ σ α) :
    called (g.happenings script s)
        = g.world.dues (g.happenings script s)
          ++ (g.world.finishes (g.happenings script s)).filterMap (fun p => p.2.onComplete)
      ∧ announced (g.happenings script s)
        = (g.world.finishes (g.happenings script s)).map Prod.fst := by
  cases s with
  | tick dt =>
      have hdues : g.world.dues (g.happenings script (.tick dt)) = _ :=
        gather_tick script Happening.due (fun _ _ => rfl) g dt
      have hfinishes : g.world.finishes (g.happenings script (.tick dt)) = _ :=
        gather_tick script Happening.finished (fun _ _ => rfl) g dt
      obtain ⟨hclock, hnone⟩ := script.gather_clockPass (g.begun dt)
      obtain ⟨hnone', htweens⟩ :=
        script.gather_tweenPass ((g.begun dt).updateClock script.handlers)
      have hentered : entered (g.happenings script (.tick dt))
          = (g.begun dt).dueCalls ++ (((g.begun dt).updateClock script.handlers).completions
            ++ ((g.begun dt).updateClock script.handlers).announcements) := by
        rw [← script.entered_clockPass, ← script.entered_tweenPass]
        exact entered_append _ _
      unfold World.dues at hclock hnone' hdues
      unfold World.finishes at hnone htweens hfinishes
      rw [hclock, hnone', List.append_nil] at hdues
      rw [hnone, htweens, List.nil_append] at hfinishes
      unfold World.dues World.finishes called announced
      rw [hentered, hdues, hfinishes]
      unfold World.dueCalls World.completions World.announcements
      constructor
      · simp [List.filterMap_append, List.filterMap_map, Function.comp_def, Occasion.call?]
      · simp [List.filterMap_append, List.filterMap_map, Function.comp_def, Occasion.announced?]
  | pause =>
      unfold happenings
      dsimp only
      split <;> exact ⟨rfl, rfl⟩
  | resume =>
      unfold happenings
      dsimp only
      split <;> exact ⟨rfl, rfl⟩
  | reset => exact ⟨rfl, rfl⟩
  | edit e => exact ⟨rfl, rfl⟩

/-- What is announced in a run are the tweens that finish, in order. -/
theorem announced_story (g : Game κ σ α) (steps : List (Step κ σ α)) :
    announced (g.story script steps) = (g.world.finishes (g.story script steps)).map Prod.fst := by
  induction steps generalizing g with
  | nil => rfl
  | cons s steps ih =>
      have hrest := ih (g.step script s)
      rw [world_step] at hrest
      unfold story World.finishes
      rw [announced_append, (g.reports_happenings script s).2, World.gather_append,
        List.map_append, hrest]
      rfl

/-- What is called in a run is what was due and what the tweens that finish have to
call. -/
theorem called_story (g : Game κ σ α) (steps : List (Step κ σ α)) :
    (called (g.story script steps)).Perm
      (g.world.dues (g.story script steps)
        ++ (g.world.finishes (g.story script steps)).filterMap fun p => p.2.onComplete) := by
  induction steps generalizing g with
  | nil => exact .refl _
  | cons s steps ih =>
      have hrest := ih (g.step script s)
      rw [world_step] at hrest
      unfold story World.finishes World.dues
      rw [called_append, (g.reports_happenings script s).1, World.gather_append,
        World.gather_append, List.filterMap_append, List.append_assoc, List.append_assoc]
      refine List.Perm.append_left _ ?_
      -- the calls of this step come before those that are due later
      refine (hrest.append_left _).trans ?_
      exact List.perm_append_comm_assoc _ _ _

end Game

-- ============================================================ the recorder

/-- Handlers that do what the script says and write down when they are entered, and
with which world. -/
def Script.watched (script : Script κ σ α) : Handlers κ (Recorded κ σ α) α where
  call c w := (script.body (.call c) w.plain).recorded (w.jot (.enter (.call c))).host.record
  finished id w :=
    (script.body (.announce id) w.plain).recorded (w.jot (.enter (.announce id))).host.record

/-- What is written down of a happening. -/
def Happening.entry (w : World κ σ α) : Happening κ σ α → List (Deed κ σ α)
  | enter o => [⟨.enter o, w⟩]
  | _ => []

def World.entries (w : World κ σ α) : List (Happening κ σ α) → List (Deed κ σ α) :=
  w.gather Happening.entry

namespace Script

variable (script : Script κ σ α)

theorem entries_visit (w : World κ σ α) (o : Occasion κ) :
    w.entries (script.visit w o) = [⟨.enter o, w.entered o⟩] := by
  have hedits (v : World κ σ α) (es : List (Edit κ σ α)) : v.entries (es.map .edit) = [] := by
    refine World.gather_eq_nil fun h hh u => ?_
    obtain ⟨e, -, rfl⟩ := List.mem_map.1 hh
    rfl
  unfold visit World.entries
  rw [World.gather_append]
  refine (congrArg (_ ++ ·) (hedits _ _)).trans ?_
  cases o <;> rfl

theorem entries_visits (w : World κ σ α) (o : Occasion κ) (os : List (Occasion κ)) :
    w.entries (script.visits w (o :: os))
      = ⟨.enter o, w.entered o⟩ :: (w.meet script.handlers o).entries
          (script.visits (w.meet script.handlers o) os) := by
  refine (World.gather_append _ _ _ _).trans ?_
  rw [after_visit]
  exact congrArg (· ++ _) (script.entries_visit w o)

theorem foldl_meet_watched (os : List (Occasion κ)) (w : World κ σ α)
    (record : List (Deed κ σ α)) :
    os.foldl (World.meet script.watched) (w.recorded record)
      = (os.foldl (World.meet script.handlers) w).recorded
          (record ++ w.entries (script.visits w os)) := by
  induction os generalizing w record with
  | nil =>
      show w.recorded record = w.recorded (record ++ [])
      rw [List.append_nil]
  | cons o os ih =>
      have hone : (w.recorded record).meet script.watched o
          = (w.meet script.handlers o).recorded (record ++ [⟨.enter o, w.entered o⟩]) := by
        cases o <;> rfl
      rw [List.foldl_cons, List.foldl_cons, hone, ih, entries_visits, List.append_assoc]
      rfl

end Script

/-- The record that the handlers of a tick keep themselves has the entries of the
story, and keeping it changes nothing else. -/
theorem Game.tick_watched (script : Script κ σ α) (g : Game κ σ α) (dt : α) :
    (g.recorded.tick script.watched dt).world
      = (g.tick script.handlers dt).world.recorded
          (g.world.entries (g.happenings script (.tick dt))) := by
  have hentries := gather_tick script Happening.entry (fun _ _ => rfl) g dt
  have hclock (w : World κ σ α) : (w.recorded []).updateClock script.watched
      = (w.updateClock script.handlers).recorded (w.entries (script.clockPass w)) := by
    rw [World.updateClock_eq, World.updateClock_eq]
    exact script.foldl_meet_watched w.dueCalls w.counted []
  have htweens (w : World κ σ α) (record : List (Deed κ σ α)) :
      (w.recorded record).updateTweens script.watched
        = (w.updateTweens script.handlers).recorded
            (record ++ w.entries (script.tweenPass w)) := by
    rw [World.updateTweens_eq, World.updateTweens_eq, ← List.foldl_append, ← List.foldl_append]
    exact script.foldl_meet_watched (w.completions ++ w.announcements) w.moved record
  rw [world_tick, world_tick, begun_recorded, hclock, htweens]
  exact congrArg _ hentries.symm

end Stagecraft
