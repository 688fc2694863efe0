/-
What a reset leaves behind.

A reset empties both queues and begins time anew, and two things outlast
it: what the game is set to, and the number that the next tween gets. So
the game after a reset depends on nothing else that was before
(`StartsOver.forgotten`): had other calls been waiting and other tweens been
running, the run that follows would be the same, handler for handler.

# Stale numbers

Whoever kept the number of a tween from before the reset has a number that
stands for nothing. Clearing a queue does not turn its numbers back, so as
long as the world keeps that queue the number is below all that are handed
out from then on, and it is never queued again: no pass steps it, nothing
is announced for it, and there is nothing to cancel. A world that has its
queue taken away, or another put in its place, has new numbers from 0 on,
which is why the clauses on numbers ask for the queue to stay. That nothing
is queued but what was queued after the reset holds in any case.
-/
import Stagecraft.Proofs.Game.Queues

namespace Stagecraft

variable {κ σ α : Type} [Elementary α] [DecidableEq κ] [Journal (Notice κ α) σ]

/-- A run after a reset owes nothing to what was before. -/
structure StartsOver (script : Script κ σ α) (g : Game κ σ α) (steps : List (Game.Step κ σ α)) :
    Prop where
  paused : g.reset.paused = g.paused
  timeScale : g.reset.world.time.timeScale = g.world.time.timeScale
  config : g.reset.world.config = g.world.config
  gallery : g.reset.world.gallery = g.world.gallery
  /-- Images keep their sizes, and puppets stay where they are. -/
  stage : g.reset.world.stage = g.world.stage
  /-- With any other clock, tweens and time before the reset, the same would happen
  after it. -/
  forgotten (clock : Option (Clock κ α)) (tasks : List (Task κ α)) (elapsed delta : α)
      (frameCount : Nat) :
    let other : Game κ σ α :=
      { g with
        world := { g.world with
          clock
          tweens := some ⟨tasks, g.world.tweensOrNew.next⟩
          time := ⟨elapsed, delta, g.world.time.timeScale, frameCount⟩ } }
    other.reset.story script steps = g.reset.story script steps
      ∧ other.reset.run script steps = g.reset.run script steps
  /-- Calls are made for what was due, and for tweens that finished. -/
  calls : (called (g.reset.story script steps)).Perm
    (g.reset.world.dues (g.reset.story script steps)
      ++ (g.reset.world.finishes (g.reset.story script steps)).filterMap fun p => p.2.onComplete)
  /-- What is due was scheduled since the reset. -/
  scheduled : ∀ pre post, g.reset.story script steps = pre ++ .count :: post →
    ∀ c ∈ (Happening.count : Happening κ σ α).due (g.reset.world.after pre),
      ∃ h ∈ pre, c ∈ h.scheduled
  /-- What is queued, at any moment, was queued since the reset. -/
  queued : ∀ pre post, g.reset.story script steps = pre ++ post →
    ∀ id ∈ (g.reset.world.after pre).tweensOrNew.ids, id ∈ g.reset.world.issued pre
  /-- Numbers that were handed out before are below the one that was next. -/
  issued_before (script' : Script κ σ α) (g₀ : Game κ σ α) (before : List (Game.Step κ σ α)) :
    g = g₀.run script' before → (∀ h ∈ g₀.story script' before, h.keepsQueue = true) →
    ∀ id ∈ g₀.world.issued (g₀.story script' before), id.number < g.world.tweensOrNew.next
  /-- Numbers that are handed out later are not. -/
  issued_after : (∀ h ∈ g.reset.story script steps, h.keepsQueue = true) →
    ∀ id ∈ g.reset.world.issued (g.reset.story script steps),
      g.world.tweensOrNew.next ≤ id.number
  /-- A number from before is never stepped, finished, announced or cancelled. -/
  gone : (∀ h ∈ g.reset.story script steps, h.keepsQueue = true) →
    ∀ id : TweenId, id.number < g.world.tweensOrNew.next →
      id ∉ g.reset.world.steps (g.reset.story script steps)
        ∧ id ∉ (g.reset.world.finishes (g.reset.story script steps)).map Prod.fst
        ∧ id ∉ announced (g.reset.story script steps)
        ∧ ∀ pre post, g.reset.story script steps = pre ++ post →
          ((g.reset.world.after pre).cancelTween id).1 = false
  /-- Until the next reset, time adds up the deltas of the frames since this one. -/
  elapsed : .reset ∉ steps → (g.reset.run script steps).world.time.elapsed
    = (g.reset.deltas script steps).foldl (· + ·) 0.0
  frameCount : .reset ∉ steps → (g.reset.run script steps).world.time.frameCount
    = steps.countP Game.Step.isTick

namespace Game

variable (script : Script κ σ α) (g : Game κ σ α) {steps : List (Step κ σ α)}
  {pre post : List (Happening κ σ α)}

/-- After a reset, what is queued was handed out since. -/
private theorem ids_reset {id : TweenId} (hid : id ∈ (g.reset.world.after pre).tweensOrNew.ids) :
    id ∈ g.reset.world.issued pre := by
  rcases World.ids_origin hid with hold | hnew
  · exact absurd hold List.not_mem_nil
  · exact World.mem_gather.2 hnew

/-- After a reset, a number from before is not queued as long as the queue stays. -/
private theorem not_mem_ids_reset (hkeeps : ∀ h ∈ pre, h.keepsQueue = true) {id : TweenId}
    (hid : id.number < g.world.tweensOrNew.next) :
    id ∉ (g.reset.world.after pre).tweensOrNew.ids := by
  intro hmem
  have hissued := World.next_le_issued hkeeps (ids_reset g hmem)
  exact absurd hid (Nat.not_lt.2 hissued.1)

/-- After a reset, what is due was scheduled since. -/
private theorem due_reset {c : κ}
    (hc : c ∈ (Happening.count : Happening κ σ α).due (g.reset.world.after pre)) :
    ∃ h ∈ pre, c ∈ h.scheduled := by
  have hdue : c ∈ (g.reset.world.after pre).clockOrNew.due _ := hc
  rw [Clock.due_eq] at hdue
  have hwaits : c ∈ (g.reset.world.after pre).clockOrNew.callbacks :=
    (List.filter_sublist.map _).subset hdue
  rcases World.callbacks_origin hwaits with hold | hnew
  · exact absurd hold List.not_mem_nil
  · exact hnew

end Game

/-- A game that is reset starts over, whatever has happened and whatever is done then: nothing
that was scheduled or queued before comes back, numbers go on, and time begins anew. -/
theorem reset_starts_over (script : Script κ σ α) (g : Game κ σ α)
    (steps : List (Game.Step κ σ α)) : StartsOver script g steps := by
  constructor
  case paused => rfl
  case timeScale => rfl
  case config => rfl
  case gallery => rfl
  case stage => rfl
  case forgotten => exact fun clock tasks elapsed delta frameCount => ⟨rfl, rfl⟩
  case calls => exact g.reset.called_story script steps
  case scheduled => exact fun pre post _ c hc => g.due_reset hc
  case queued => exact fun pre post _ id hid => g.ids_reset hid
  case issued_before =>
    rintro script' g₀ before rfl hkeeps id hid
    rw [Game.world_run]
    exact (World.next_le_issued hkeeps hid).2
  case issued_after => exact fun hkeeps id hid => (World.next_le_issued hkeeps hid).1
  case gone =>
    intro hkeeps id hid
    have hnever (pre post : List (Happening κ σ α))
        (hcut : g.reset.story script steps = pre ++ post) :
        id ∉ (g.reset.world.after pre).tweensOrNew.ids := by
      refine g.not_mem_ids_reset (fun h hh => hkeeps h ?_) hid
      rw [hcut]
      exact List.mem_append_left _ hh
    have hfinishes : id ∉ (g.reset.world.finishes (g.reset.story script steps)).map Prod.fst := by
      intro hmem
      obtain ⟨p, hp, rfl⟩ := List.mem_map.1 hmem
      obtain ⟨pre, h, post, hcut, hfound⟩ := World.mem_gather.1 hp
      exact hnever pre _ hcut (h.finished_subset _ (List.mem_map_of_mem hfound))
    refine ⟨fun hmem => ?_, hfinishes, ?_, fun pre post hcut => ?_⟩
    · obtain ⟨pre, h, post, hcut, hfound⟩ := World.mem_gather.1 hmem
      exact hnever pre _ hcut (h.stepped_subset _ hfound)
    · rw [Game.announced_story]
      exact hfinishes
    · exact Bool.eq_false_iff.2 fun h => hnever pre post hcut (TweenQueue.contains_iff.1 h)
  case elapsed => exact fun hsteps => (Game.time_run script hsteps g.reset).1
  case frameCount =>
    intro hsteps
    exact ((Game.time_run script hsteps g.reset).2).trans (Nat.zero_add _)

end Stagecraft
