/-
What a run does to the two queues.

Whatever happens in a run, it edits the tween queue in one of few ways
(`Happening.editTweens`) and the clock in one of few ways, and most of it
leaves both alone. Two things are read off here, each for one happening and
from there for a run. A queue stays numbered, and its next number does not
go down unless the queue itself is replaced (`next_le_after`). And nothing
is in a queue that was not there at the beginning or put there on the way:
a number that is queued was issued (`ids_origin`), a callback that waits
was scheduled (`callbacks_origin`).
-/
import Stagecraft.Proofs.Game.Story

namespace Stagecraft

variable {κ σ α : Type} [Elementary α]

namespace Clock

/-- The callbacks that wait, each as often as it has entries. -/
def callbacks (q : Clock κ α) : List κ := q.queue.map ScheduledCall.callback

variable [DecidableEq κ]

theorem mem_callbacks_run {q : Clock κ α} {op : Op κ α} {c : κ} (hc : c ∈ (op.run q).callbacks) :
    c ∈ q.callbacks ∨ c ∈ op.added.map ScheduledCall.callback := by
  unfold callbacks at hc ⊢
  rw [Op.run_eq, List.map_append] at hc
  rcases List.mem_append.1 hc with hold | hnew
  · obtain ⟨left, hleft, rfl⟩ := List.mem_map.1 hold
    obtain ⟨e, he, hkeep⟩ := List.mem_filterMap.1 hleft
    rw [Op.callback_of_keep? hkeep]
    exact .inl (List.mem_map_of_mem he)
  · exact .inr hnew

theorem mem_callbacks_editClock {q : Clock κ α} {call : QueueCall κ α} {c : κ}
    (hc : c ∈ (call.editClock q).callbacks) :
    c ∈ q.callbacks ∨ c ∈ (call.entry?.map ScheduledCall.callback).toList := by
  unfold callbacks QueueCall.editClock at hc
  rw [List.map_append] at hc
  rcases List.mem_append.1 hc with hold | hnew
  · exact .inl ((List.filter_sublist.map _).subset hold)
  · rw [← Option.toList_map] at hnew
    exact .inr hnew

end Clock

-- ============================================================== the edits

namespace Edit

/-- The tween queue after an edit of a world that has this queue. -/
def editTweens (w : World κ σ α) (q : TweenQueue κ α) : Edit κ σ α → TweenQueue κ α
  | call c => c.editTweens w q
  | push t => (q.push t).2
  | step id dt => (q.updateAt id dt w.stage).1
  | replace id t => q.set id t
  | moveTweens dt => q.rebuilt dt
  | clearTweens => q.clear
  | changeTweens _ => .empty
  | _ => q

/-- The numbers that an edit hands out. -/
def issued (w : World κ σ α) : Edit κ σ α → List TweenId
  | call c => ((c.tween? w).map fun _ => (⟨w.tweensOrNew.next⟩ : TweenId)).toList
  | push _ => [⟨w.tweensOrNew.next⟩]
  | _ => []

/-- The callbacks that an edit makes wait. -/
def scheduled : Edit κ σ α → List κ
  | call c => (c.entry?.map ScheduledCall.callback).toList
  | clock op => op.added.map ScheduledCall.callback
  | _ => []

variable [DecidableEq κ] [Journal (Notice κ α) σ]

theorem tweensOrNew_apply (w : World κ σ α) (e : Edit κ σ α) :
    (e.apply w).tweensOrNew = e.editTweens w w.tweensOrNew := by
  cases e with
  | call c => exact QueueCall.tweensOrNew_apply w c
  | changeTweens present => cases present <;> rfl
  | step id dt | moveTweens dt | replace id t | clearTweens =>
      obtain ⟨time, config, clock, tweens, gallery, stage, host⟩ := w
      cases tweens <;> rfl
  | _ => rfl

omit [DecidableEq κ] [Journal (Notice κ α) σ] in
theorem mem_ids_editTweens {w : World κ σ α} {e : Edit κ σ α} {id : TweenId}
    (h : id ∈ (e.editTweens w w.tweensOrNew).ids) :
    id ∈ w.tweensOrNew.ids ∨ id ∈ e.issued w := by
  cases e with
  | call c =>
      obtain ⟨p, hp, rfl⟩ := List.mem_map.1 h
      rcases QueueCall.mem_of_mem_editTweens hp with hold | ⟨t, ht, rfl⟩
      · exact .inl (List.mem_map_of_mem hold)
      · exact .inr (by simp [issued, ht])
  | push t =>
      have hids : id ∈ (w.tweensOrNew.push t).2.ids := h
      rw [TweenQueue.ids_push] at hids
      exact List.mem_append.1 hids
  | step id dt => exact .inl (TweenQueue.ids_updateAt _ id dt w.stage ▸ h)
  | replace id t => exact .inl (TweenQueue.ids_set _ id t ▸ h)
  | moveTweens dt => exact .inl ((TweenQueue.ids_rebuilt_sublist _ dt).subset h)
  | clearTweens | changeTweens present => exact absurd h List.not_mem_nil
  | _ => exact .inl h

omit [DecidableEq κ] [Journal (Notice κ α) σ] in
theorem numbered_editTweens {w : World κ σ α} {q : TweenQueue κ α} (h : q.Numbered)
    (e : Edit κ σ α) : (e.editTweens w q).Numbered := by
  cases e with
  | call c => exact QueueCall.numbered_editTweens h
  | push t => exact TweenQueue.numbered_push h t
  | step id dt => exact TweenQueue.Op.numbered_run h (.update id dt w.stage)
  | replace id t => exact h.of_sublist (TweenQueue.ids_set q id t ▸ List.Sublist.refl _) rfl
  | moveTweens dt => exact h.of_sublist (TweenQueue.ids_rebuilt_sublist q dt) rfl
  | clearTweens => exact TweenQueue.numbered_clear h
  | changeTweens present => exact TweenQueue.numbered_empty
  | _ => exact h

/-- The number that is handed out is the next one, and then the next one is another. -/
theorem next_of_issued {w : World κ σ α} {e : Edit κ σ α} {id : TweenId} (h : id ∈ e.issued w) :
    id.number = w.tweensOrNew.next ∧ (e.apply w).tweensOrNew.next = w.tweensOrNew.next + 1 := by
  rw [tweensOrNew_apply]
  cases e with
  | call c =>
      obtain ⟨t, ht, rfl⟩ := Option.map_eq_some_iff.1 (Option.mem_toList.1 h)
      exact ⟨rfl, (QueueCall.mem_editTweens_tween ht).2⟩
  | push t => exact ⟨congrArg TweenId.number (List.mem_singleton.1 h), rfl⟩
  | _ => exact absurd h List.not_mem_nil

theorem mem_callbacks_apply {w : World κ σ α} {e : Edit κ σ α} {c : κ}
    (hc : c ∈ (e.apply w).clockOrNew.callbacks) :
    c ∈ w.clockOrNew.callbacks ∨ c ∈ e.scheduled := by
  cases e with
  | call call =>
      have hcall : c ∈ (call.apply w).clockOrNew.callbacks := hc
      rw [QueueCall.clockOrNew_apply] at hcall
      exact Clock.mem_callbacks_editClock hcall
  | clock op =>
      obtain ⟨time, config, clock, tweens, gallery, stage, host⟩ := w
      cases clock with
      | none => exact .inl hc
      | some q => exact Clock.mem_callbacks_run hc
  | clearClock =>
      obtain ⟨time, config, clock, tweens, gallery, stage, host⟩ := w
      cases clock <;> exact absurd hc List.not_mem_nil
  | changeClock present => cases present <;> exact absurd hc List.not_mem_nil
  | step id dt | moveTweens dt =>
      obtain ⟨time, config, clock, tweens, gallery, stage, host⟩ := w
      cases tweens <;> exact .inl hc
  | _ => exact .inl hc

end Edit

-- ========================================================== the happenings

namespace Happening

/-- The tween queue after a happening in a world that has this queue. -/
def editTweens (w : World κ σ α) (q : TweenQueue κ α) : Happening κ σ α → TweenQueue κ α
  | move => q.rebuilt w.time.delta
  | edit e => e.editTweens w q
  | reset => q.clear
  | _ => q

/-- The numbers that are handed out. -/
def issued (w : World κ σ α) : Happening κ σ α → List TweenId
  | edit e => e.issued w
  | _ => []

/-- The numbers of the tweens that are stepped. -/
def stepped (w : World κ σ α) : Happening κ σ α → List TweenId
  | move => w.tweensOrNew.live.map Prod.fst
  | edit (.moveTweens _) => w.tweensOrNew.live.map Prod.fst
  | edit (.step id _) => if w.tweensOrNew.contains id then [id] else []
  | _ => []

/-- Whether the world has the same tween queue as before, however edited. A queue in
its place numbers its tweens anew. -/
def keepsQueue : Happening κ σ α → Bool
  | edit (.changeTweens _) => false
  | _ => true

/-- The callbacks that are made to wait. -/
def scheduled : Happening κ σ α → List κ
  | edit e => e.scheduled
  | _ => []

variable [DecidableEq κ] [Journal (Notice κ α) σ]

theorem tweensOrNew_apply (w : World κ σ α) (h : Happening κ σ α) :
    (h.apply w).tweensOrNew = h.editTweens w w.tweensOrNew := by
  cases h with
  | frame dt =>
      obtain ⟨-, -, htweens, -⟩ := (w.updateTime dt).applyConfig_parts
      obtain ⟨-, -, htweens', -⟩ := w.updateTime_parts dt
      exact congrArg (fun q => q.getD TweenQueue.empty) (htweens.trans htweens')
  | move => exact w.tweensOrNew_moved
  | edit e => exact e.tweensOrNew_apply w
  | _ => rfl

theorem numbered_apply {w : World κ σ α} (hw : w.tweensOrNew.Numbered) (h : Happening κ σ α) :
    (h.apply w).tweensOrNew.Numbered := by
  rw [tweensOrNew_apply]
  cases h with
  | move => exact hw.of_sublist (TweenQueue.ids_rebuilt_sublist _ _) rfl
  | edit e => exact Edit.numbered_editTweens hw e
  | reset => exact TweenQueue.numbered_clear hw
  | _ => exact hw

theorem next_le_apply (w : World κ σ α) {h : Happening κ σ α} (hh : h.keepsQueue = true) :
    w.tweensOrNew.next ≤ (h.apply w).tweensOrNew.next := by
  rw [tweensOrNew_apply]
  cases h with
  | edit e =>
      cases e with
      | call c => exact QueueCall.next_le_editTweens
      | push t => exact Nat.le_succ _
      | step id dt => exact Nat.le_of_eq (TweenQueue.next_updateAt _ id dt w.stage).symm
      | changeTweens present => exact absurd hh Bool.false_ne_true
      | _ => exact Nat.le_refl _
  | _ => exact Nat.le_refl _

theorem mem_ids_apply {w : World κ σ α} {h : Happening κ σ α} {id : TweenId}
    (hid : id ∈ (h.apply w).tweensOrNew.ids) : id ∈ w.tweensOrNew.ids ∨ id ∈ h.issued w := by
  rw [tweensOrNew_apply] at hid
  cases h with
  | move => exact .inl ((TweenQueue.ids_rebuilt_sublist _ _).subset hid)
  | edit e => exact Edit.mem_ids_editTweens hid
  | reset => exact absurd hid List.not_mem_nil
  | _ => exact .inl hid

theorem next_of_issued {w : World κ σ α} {h : Happening κ σ α} {id : TweenId}
    (hid : id ∈ h.issued w) :
    id.number = w.tweensOrNew.next ∧ (h.apply w).tweensOrNew.next = w.tweensOrNew.next + 1 := by
  cases h with
  | edit e => exact e.next_of_issued hid
  | _ => exact absurd hid List.not_mem_nil

omit [DecidableEq κ] [Journal (Notice κ α) σ] in
/-- Only what is queued is stepped. -/
theorem stepped_subset (w : World κ σ α) (h : Happening κ σ α) :
    h.stepped w ⊆ w.tweensOrNew.ids := by
  have hlive : w.tweensOrNew.live.map Prod.fst ⊆ w.tweensOrNew.ids :=
    (List.filter_sublist.map Prod.fst).subset
  intro id hid
  cases h with
  | move => exact hlive hid
  | edit e =>
      cases e with
      | moveTweens dt => exact hlive hid
      | step i dt =>
          have hone : id ∈ if w.tweensOrNew.contains i then [i] else [] := hid
          split at hone
          next hi =>
              rw [List.mem_singleton.1 hone]
              exact TweenQueue.contains_iff.1 hi
          next => exact absurd hone List.not_mem_nil
      | _ => exact absurd hid List.not_mem_nil
  | _ => exact absurd hid List.not_mem_nil

omit [DecidableEq κ] [Journal (Notice κ α) σ] in
/-- Only what is queued finishes. -/
theorem finished_subset (w : World κ σ α) (h : Happening κ σ α) :
    (h.finished w).map Prod.fst ⊆ w.tweensOrNew.ids := by
  cases h with
  | move => exact TweenQueue.ids_finishing_subset _ _
  | _ => exact List.nil_subset _

/-- A callback that waits after a happening waited before it, or was scheduled. -/
theorem mem_callbacks_apply {w : World κ σ α} {h : Happening κ σ α} {c : κ}
    (hc : c ∈ (h.apply w).clockOrNew.callbacks) :
    c ∈ w.clockOrNew.callbacks ∨ c ∈ h.scheduled := by
  cases h with
  | frame dt =>
      obtain ⟨-, hclock, -⟩ := (w.updateTime dt).applyConfig_parts
      obtain ⟨-, hclock', -⟩ := w.updateTime_parts dt
      refine .inl ?_
      unfold World.clockOrNew
      rw [← hclock', ← hclock]
      exact hc
  | count =>
      refine .inl ?_
      obtain ⟨time, config, clock, tweens, gallery, stage, host⟩ := w
      cases clock with
      | none => exact hc
      | some q =>
          have hrun : c ∈ ((Clock.Op.advance time.delta).run q).callbacks := hc
          exact (Clock.mem_callbacks_run hrun).resolve_right List.not_mem_nil
  | edit e => exact Edit.mem_callbacks_apply hc
  | reset => exact absurd hc List.not_mem_nil
  | _ => exact .inl hc

end Happening

-- ============================================================== whole runs

namespace World

variable [DecidableEq κ] [Journal (Notice κ α) σ]

def issued (w : World κ σ α) : List (Happening κ σ α) → List TweenId := w.gather Happening.issued

def steps (w : World κ σ α) : List (Happening κ σ α) → List TweenId := w.gather Happening.stepped

variable {w : World κ σ α} {hs : List (Happening κ σ α)}

theorem numbered_after (hw : w.tweensOrNew.Numbered) (hs : List (Happening κ σ α)) :
    (w.after hs).tweensOrNew.Numbered :=
  after_induct (P := fun v => v.tweensOrNew.Numbered) hw fun _ h _ hv => h.numbered_apply hv

theorem next_le_after (hkeeps : ∀ h ∈ hs, h.keepsQueue = true) :
    w.tweensOrNew.next ≤ (w.after hs).tweensOrNew.next :=
  after_induct (P := fun v => w.tweensOrNew.next ≤ v.tweensOrNew.next) (Nat.le_refl _)
    fun v h hh hv => Nat.le_trans hv (h.next_le_apply v (hkeeps h hh))

/-- What is handed out in a run lies between the next numbers of its ends. -/
theorem next_le_issued (hkeeps : ∀ h ∈ hs, h.keepsQueue = true) {id : TweenId}
    (hid : id ∈ w.issued hs) :
    w.tweensOrNew.next ≤ id.number ∧ id.number < (w.after hs).tweensOrNew.next := by
  obtain ⟨pre, h, post, rfl, hissued⟩ := mem_gather.1 hid
  obtain ⟨hnumber, hnext⟩ := h.next_of_issued hissued
  rw [List.forall_mem_append, List.forall_mem_cons] at hkeeps
  have hpre := next_le_after (w := w) hkeeps.1
  have hpost := next_le_after (w := h.apply (w.after pre)) hkeeps.2.2
  rw [after_append]
  change _ ∧ _ < ((h.apply (w.after pre)).after post).tweensOrNew.next
  omega

/-- What is there after a run was there before it, or a happening brought it. -/
theorem after_origin {β : Type} (present : World κ σ α → β → Prop)
    (brought : World κ σ α → Happening κ σ α → β → Prop)
    (hstep : ∀ v h b, present (h.apply v) b → present v b ∨ brought v h b) {b : β}
    (hb : present (w.after hs) b) :
    present w b ∨ ∃ pre h post, hs = pre ++ h :: post ∧ brought (w.after pre) h b := by
  induction hs generalizing w with
  | nil => exact .inl hb
  | cons h hs ih =>
      rcases ih hb with hold | ⟨pre, x, post, rfl, hx⟩
      · rcases hstep w h b hold with hfirst | hhere
        · exact .inl hfirst
        · exact .inr ⟨[], h, hs, rfl, hhere⟩
      · exact .inr ⟨h :: pre, x, post, rfl, hx⟩

/-- A number that is queued was queued at the beginning or handed out since. -/
theorem ids_origin {id : TweenId} (hid : id ∈ (w.after hs).tweensOrNew.ids) :
    id ∈ w.tweensOrNew.ids
      ∨ ∃ pre h post, hs = pre ++ h :: post ∧ id ∈ h.issued (w.after pre) :=
  after_origin (fun v id => id ∈ v.tweensOrNew.ids) (fun v h id => id ∈ h.issued v)
    (fun _ _ _ => Happening.mem_ids_apply) hid

/-- A callback that waits has waited since the beginning or was scheduled since. -/
theorem callbacks_origin {c : κ} (hc : c ∈ (w.after hs).clockOrNew.callbacks) :
    c ∈ w.clockOrNew.callbacks ∨ ∃ h ∈ hs, c ∈ h.scheduled := by
  have horigin := after_origin (fun v c => c ∈ v.clockOrNew.callbacks)
    (fun _ h c => c ∈ h.scheduled) (fun _ _ _ => Happening.mem_callbacks_apply) hc
  rcases horigin with hold | ⟨pre, h, post, rfl, hh⟩
  · exact .inl hold
  · exact .inr ⟨h, List.mem_append_right _ List.mem_cons_self, hh⟩

end World

end Stagecraft
