/-
What a tween makes of the requests it is made from.

A request names an attribute and its end. It suits a puppet that has the
attribute in the shape of that end, and one that does not suit leaves no
trace. Of those that do, the first of a name gives the attribute its place
among the tracks and the last of a name gives it its end. Requests are taken
from the front, so the induction goes from the back: one more request that
suits either finds its name among the tracks, whose order it keeps, or stands
behind them all.

# Queueing

A tween that has just been made is done exactly if it tracks nothing: its
duration is above zero, and so not below the zero that has elapsed. This is
said of doubles, where it takes a law (`Double.le_of_lt`), since there a
comparison that fails need not make another one succeed.
-/
import Stagecraft.Proofs.Doubles.Arithmetic
import Stagecraft.Proofs.Tweens.Fates
import Stagecraft.Proofs.Tweens.Records
import Stagecraft.Proofs.Frame.QueueCall

namespace Stagecraft

variable {κ α : Type}

/-- The values that occur in a longer list, in the order in which they first occur. -/
theorem eraseDups_concat {β : Type} [BEq β] [LawfulBEq β] (l : List β) (b : β) :
    (l ++ [b]).eraseDups = if b ∈ l then l.eraseDups else l.eraseDups ++ [b] := by
  rw [List.eraseDups_append]
  by_cases hb : b ∈ l
  · simp [List.removeAll, hb]
  · simp [List.removeAll, hb, List.eraseDups_cons]

namespace Tween

variable {read : String → Option (AttrValue α)} {requests : List (String × AttrValue α)}
  {tracks : List (Track α)}

-- ================================================== the order and the ends

/-- The names of the requests that suit, in the order of the first of each. -/
def suitingNames (read : String → Option (AttrValue α)) (requests : List (String × AttrValue α)) :
    List String :=
  ((requests.filter (suits read)).map Prod.fst).eraseDups

/-- One more request puts its name behind the others if it suits and is the first to do so. -/
theorem suitingNames_concat (hnames : tracks.map Track.name = suitingNames read requests)
    (name : String) (stop : AttrValue α) :
    suitingNames read (requests ++ [(name, stop)])
      = if suits read (name, stop) = true ∧ name ∉ tracks.map Track.name then
          suitingNames read requests ++ [name]
        else suitingNames read requests := by
  have hmem : name ∈ tracks.map Track.name
      ↔ name ∈ (requests.filter (suits read)).map Prod.fst := by
    rw [hnames]
    exact List.mem_eraseDups
  unfold suitingNames
  rw [List.filter_append, List.filter_cons, List.filter_nil, List.map_append]
  by_cases hsuits : suits read (name, stop) = true
  · rw [if_pos hsuits]
    refine (eraseDups_concat _ name).trans ?_
    simp only [hmem, hsuits, true_and, ite_not]
  · rw [if_neg hsuits, if_neg fun hboth => hsuits hboth.1]
    simp

/-- The track has the end of the last request for its name that suits. -/
def EndsLast (read : String → Option (AttrValue α)) (requests : List (String × AttrValue α))
    (a : Track α) : Prop :=
  ∃ before behind, requests = before ++ (a.name, a.stop) :: behind
    ∧ suits read (a.name, a.stop) = true ∧ ∀ stop, (a.name, stop) ∈ behind →
      suits read (a.name, stop) = false

/-- A request that does not suit, or is for another name, changes no end. -/
theorem EndsLast.concat {a : Track α} (h : EndsLast read requests a)
    {request : String × AttrValue α} (hother : suits read request = false ∨ a.name ≠ request.1) :
    EndsLast read (requests ++ [request]) a := by
  obtain ⟨before, behind, rfl, hsuits, hbehind⟩ := h
  refine ⟨before, behind ++ [request], by simp, hsuits, fun stop hmem => ?_⟩
  rcases List.mem_append.1 hmem with hmem | hmem
  · exact hbehind stop hmem
  · rw [List.mem_singleton] at hmem
    rcases hother with hnot | hne
    · rw [hmem]
      exact hnot
    · exact absurd (congrArg Prod.fst hmem) hne

theorem endsLast_concat_self {name : String} {start stop : AttrValue α}
    (hsuits : suits read (name, stop) = true) :
    EndsLast read (requests ++ [(name, stop)]) ⟨name, start, stop⟩ :=
  ⟨requests, [], rfl, hsuits, fun _ hmem => absurd hmem List.not_mem_nil⟩

/-- The tracks of a list of requests, as to their order and their ends. -/
structure Ordered (read : String → Option (AttrValue α)) (requests : List (String × AttrValue α))
    (tracks : List (Track α)) : Prop where
  names : tracks.map Track.name = suitingNames read requests
  ends : ∀ a ∈ tracks, EndsLast read requests a

theorem Ordered.track (h : Ordered read requests tracks) (request : String × AttrValue α) :
    Ordered read (requests ++ [request]) (track read tracks request) := by
  obtain ⟨name, stop⟩ := request
  have hlonger : suitingNames read (requests ++ [(name, stop)])
      = if suits read (name, stop) = true ∧ name ∉ tracks.map Track.name then
          suitingNames read requests ++ [name]
        else suitingNames read requests := suitingNames_concat h.names name stop
  rcases track_cases read tracks name stop with
    ⟨hnot, heq⟩ | ⟨start, hstart, hshape, ⟨hold, heq⟩ | ⟨hnew, heq⟩⟩
  · rw [heq]
    rw [hnot, if_neg fun hboth => Bool.false_ne_true hboth.1] at hlonger
    exact ⟨h.names.trans hlonger.symm, fun a ha => (h.ends a ha).concat (.inl hnot)⟩
  · rw [heq]
    rw [if_neg fun hboth => hboth.2 hold] at hlonger
    constructor
    case names =>
        rw [hlonger, ← h.names, List.map_map]
        refine List.map_congr_left fun a _ => ?_
        dsimp only [Function.comp]
        split <;> rfl
    case ends =>
        rw [List.forall_mem_map]
        intro a ha
        split
        next hname =>
          obtain rfl : a.name = name := eq_of_beq hname
          exact endsLast_concat_self (suits_iff.2 ⟨start, hstart, hshape⟩)
        next hne => exact (h.ends a ha).concat (.inr fun hname => hne (beq_iff_eq.2 hname))
  · have hsuits : suits read (name, stop) = true := suits_iff.2 ⟨start, hstart, hshape⟩
    rw [heq]
    rw [if_pos ⟨hsuits, hnew⟩] at hlonger
    constructor
    case names => rw [hlonger, ← h.names, List.map_append, List.map_singleton]
    case ends =>
        rw [List.forall_mem_append, List.forall_mem_singleton]
        refine ⟨fun a ha => (h.ends a ha).concat (.inr ?_), endsLast_concat_self hsuits⟩
        rintro (rfl : a.name = name)
        exact hnew (List.mem_map_of_mem ha)

theorem trackAll_ordered (read : String → Option (AttrValue α))
    (requests : List (String × AttrValue α)) : Ordered read requests (trackAll read requests) := by
  induction requests using List.reverseRecOn with
  | nil => exact ⟨rfl, fun _ ha => absurd ha List.not_mem_nil⟩
  | append_singleton requests request ih =>
      have hlast : trackAll read (requests ++ [request])
          = track read (trackAll read requests) request := by
        unfold trackAll
        rw [List.foldl_append]
        rfl
      rw [hlast]
      exact ih.track request

/-- What a tween tracks of what was requested of a puppet that reads so. -/
structure TracksWhatSuits (read : String → Option (AttrValue α))
    (requests : List (String × AttrValue α)) (t : Tween κ α) : Prop where
  /-- A name is tracked if the puppet has a value under it, of the shape of one of the
  ends requested for it at least. -/
  tracked (name : String) : name ∈ t.names
    ↔ ∃ start stop, read name = some start ∧ (name, stop) ∈ requests
        ∧ start.sameShape stop = true
  once : t.names.Nodup
  /-- In the order of the first such request for each name. -/
  order : t.names = suitingNames read requests
  start (a : Track α) (ha : a ∈ t.tracks) : read a.name = some a.start
  /-- The end is the last one of that shape that was requested for the name. -/
  stop (a : Track α) (ha : a ∈ t.tracks) : ∃ before behind,
    requests = before ++ (a.name, a.stop) :: behind ∧ a.start.sameShape a.stop = true
      ∧ ∀ stop, (a.name, stop) ∈ behind → a.start.sameShape stop = false

theorem tracksWhatSuits {t : Tween κ α} (h : t.tracks = trackAll read requests) :
    t.TracksWhatSuits read requests := by
  have hordered : Ordered read requests t.tracks := h ▸ trackAll_ordered read requests
  have hsound : Sound read t.tracks := h ▸ trackAll_sound read requests
  constructor
  case tracked =>
      intro name
      show name ∈ t.tracks.map Track.name ↔ _
      rw [hordered.names]
      unfold suitingNames
      simp only [List.mem_eraseDups, List.mem_map, List.mem_filter, suits_iff]
      constructor
      · rintro ⟨⟨_, stop⟩, ⟨hmem, start, hstart, hshape⟩, rfl⟩
        exact ⟨start, stop, hstart, hmem, hshape⟩
      · rintro ⟨start, stop, hstart, hmem, hshape⟩
        exact ⟨(name, stop), ⟨hmem, start, hstart, hshape⟩, rfl⟩
  case once => exact hsound.nodup
  case order => exact hordered.names
  case start => exact hsound.read
  case stop =>
      intro a ha
      obtain ⟨before, behind, hsplit, -, hbehind⟩ := hordered.ends a ha
      refine ⟨before, behind, hsplit, hsound.shape a ha, fun stop hmem => ?_⟩
      have hnot := hbehind stop hmem
      unfold suits at hnot
      rwa [hsound.read a ha] at hnot

end Tween

-- ============================================================== queueing

namespace TweenQueue

variable [Elementary α]

/-- What becomes of a tween that is given to a queue. -/
structure QueuesUnlessEmpty (t : Tween κ α) : Prop where
  refused (q : TweenQueue κ α) : (q.animate t).1 = none ↔ t.tracks = []
  unchanged (q : TweenQueue κ α) (hempty : t.tracks = []) : (q.animate t).2 = q
  appended (q : TweenQueue κ α) (htracks : t.tracks ≠ []) :
    q.animate t = (some ⟨q.next⟩, ⟨q.tasks ++ [(⟨q.next⟩, t)], q.next + 1⟩)
  /-- No operation has handed out the number before. -/
  fresh (ops : List (Op κ α)) (id : TweenId) (r : TweenQueue κ α)
    (hqueued : (built ops).animate t = (some id, r)) : id ∉ issued ops

theorem queuesUnlessEmpty {t : Tween κ α} (hbegun : ¬t.duration < t.elapsed) :
    QueuesUnlessEmpty t := by
  have hdone : t.isDone = true ↔ t.tracks = [] := by
    unfold Tween.isDone
    rw [decide_eq_false hbegun, Bool.or_false, List.isEmpty_iff]
  have happended (q : TweenQueue κ α) (htracks : t.tracks ≠ []) :
      q.animate t = (some ⟨q.next⟩, ⟨q.tasks ++ [(⟨q.next⟩, t)], q.next + 1⟩) := by
    unfold animate
    rw [if_neg fun h => htracks (hdone.1 h)]
    rfl
  have hrefused (q : TweenQueue κ α) (hempty : t.tracks = []) : q.animate t = (none, q) := by
    unfold animate
    rw [if_pos (hdone.2 hempty)]
  constructor
  case refused =>
      intro q
      constructor
      · intro hnone
        by_contra htracks
        rw [happended q htracks] at hnone
        cases hnone
      · intro hempty
        rw [hrefused q hempty]
  case unchanged => exact fun q hempty => congrArg Prod.snd (hrefused q hempty)
  case appended => exact happended
  case fresh =>
      intro ops id r hqueued
      have htracks : t.tracks ≠ [] := fun hempty => by
        rw [hrefused _ hempty] at hqueued
        cases hqueued
      rw [happended _ htracks] at hqueued
      cases hqueued
      -- the numbers handed out are those below the next one
      rw [issued_eq_range, List.mem_map]
      rintro ⟨n, hn, heq⟩
      exact absurd (List.mem_range.1 hn) (TweenId.mk.inj heq ▸ Nat.lt_irrefl _)

end TweenQueue

namespace World

variable {σ : Type} [Elementary α] [Journal (Notice κ α) σ] {w : World κ σ α}

/-- A world gives a tween to its queue. -/
theorem animateTween_parts (w : World κ σ α) (t : Tween κ α) :
    (w.animateTween t).1 = (w.tweensOrNew.animate t).1
      ∧ (w.animateTween t).2.tweens = some (w.tweensOrNew.animate t).2
      ∧ (w.animateTween t).2.stage = w.stage := by
  unfold animateTween TweenQueue.animate
  split
  · exact ⟨rfl, rfl, rfl⟩
  · exact ⟨rfl, rfl, rfl⟩

end World

-- ============================================================= the result

/-- A tween that is made for a puppet, with an accepted duration: what it tracks, what
becomes of it in a queue, and what a world does that is asked to animate. -/
structure MadeFrom (s : Stage Float) (target : PuppetId) (duration : Float)
    (requests : List (String × AttrValue Float)) (t : Tween κ Float) : Prop where
  tracks : t.TracksWhatSuits (s.attr? target) requests
  queues (easing : Easing) (onComplete : Option κ) :
    TweenQueue.QueuesUnlessEmpty { t with easing, onComplete }
  /-- A world that is asked answers as its queue does, and its stage stays as it is. -/
  animates (σ : Type) [Journal (Notice κ Float) σ] (w : World κ σ Float) (hw : w.stage = s)
    (name : Option String) (easing : Easing) (heasing : t.withEasing name = .ok { t with easing })
    (onComplete : Option κ) :
    (w.animate target duration requests name onComplete).1
        = .ok (w.tweensOrNew.animate { t with easing, onComplete }).1
      ∧ (w.animate target duration requests name onComplete).2.tweens
          = some (w.tweensOrNew.animate { t with easing, onComplete }).2
      ∧ (w.animate target duration requests name onComplete).2.stage = w.stage

/-- Requests that suit their target become tracks, the others are dropped, and a tween is queued
unless nothing is left to move. -/
theorem requests_become_tracks {duration : Float} (hduration : isDelay duration = true)
    (s : Stage Float) (target : PuppetId) (requests : List (String × AttrValue Float)) :
    ∃ t : Tween κ Float, Tween.new s target duration requests = .ok t
      ∧ MadeFrom s target duration requests t := by
  have hnew := Tween.new_of_isDelay (κ := κ) hduration s target requests
  refine ⟨_, hnew, Tween.tracksWhatSuits rfl, fun easing onComplete => ?_, ?_⟩
  · refine TweenQueue.queuesUnlessEmpty fun hover => ?_
    -- the duration is not below the zero that has elapsed
    unfold isDelay at hduration
    simp only [Bool.and_eq_true, Bool.not_eq_true', decide_eq_false_iff_not] at hduration
    exact hduration.1.2 (Double.le_of_lt hover)
  · rintro σ _ w rfl name easing heasing onComplete
    have hmade : w.newTween target duration requests name onComplete
        = .ok { target, tracks := Tween.trackAll (w.stage.attr? target) requests, elapsed := 0.0,
                duration, easing, onComplete } := by
      unfold World.newTween
      rw [hnew]
      dsimp only [bind, Except.bind]
      rw [heasing]
      rfl
    unfold World.animate
    rw [hmade]
    obtain ⟨hanswer, htweens, hstage⟩ := w.animateTween_parts
      { target, tracks := Tween.trackAll (w.stage.attr? target) requests, elapsed := 0.0,
        duration, easing, onComplete }
    exact ⟨congrArg Except.ok hanswer, htweens, hstage⟩

/-- A stage with a record of a number and a pair. -/
private def numberAndPair : Stage Float :=
  { puppets := #[.record [("x", .scalar 0.0), ("pos", .array [0.0, 0.0])]] }

/-- Of six requests three suit, two of them for one name. -/
theorem three_of_six_suit : ∃ t : Tween Nat Float,
    Tween.new numberAndPair ⟨0⟩ 1.0 [("x", .array []), ("pos", .array [1.0, 2.0]),
        ("x", .scalar 3.0), ("y", .scalar 1.0), ("x", .scalar 4.0), ("pos", .scalar 5.0)] = .ok t
      ∧ t.names = ["pos", "x"]
      ∧ ∃ r, (TweenQueue.empty : TweenQueue Nat Float).animate t = (some ⟨0⟩, r) := by
  have hduration : isDelay (1.0 : Float) = true := by decide +kernel
  obtain ⟨t, hnew, hmade⟩ := requests_become_tracks (κ := Nat) hduration numberAndPair ⟨0⟩
    [("x", .array []), ("pos", .array [1.0, 2.0]), ("x", .scalar 3.0), ("y", .scalar 1.0),
      ("x", .scalar 4.0), ("pos", .scalar 5.0)]
  have hnames : t.names = ["pos", "x"] := hmade.tracks.order.trans (by decide +kernel)
  refine ⟨t, hnew, hnames, _, (hmade.queues t.easing t.onComplete).appended _ fun hempty => ?_⟩
  have hempty : t.tracks = [] := hempty
  unfold Tween.names at hnames
  rw [hempty] at hnames
  cases hnames

end Stagecraft
