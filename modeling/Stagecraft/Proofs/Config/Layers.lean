/-
Texts of settings that are loaded one over the other.

A key may be absent in three ways: no line has it, the last line that has it is
the key alone, or that line has a value that cannot be read. In all three the
configuration keeps what it has (`Ini.Sets`), and a value that can be read is
the only other case. So a text that loads is a layer: whatever lies below it
is seen where it says nothing, and of more layers the last that says something
is seen (`Filled.over`).

A load that fails has taken a part of its text, the same part whatever was there
before. So it leaves nothing for a second load of the text to change.
-/
import Stagecraft.Proofs.Config.Loading

namespace Stagecraft

namespace Ini

-- ================================================================ entries

/-- That no entry has a key of a section. -/
def Lacks (ini : Ini) (sec key : String) : Prop :=
  ∀ e ∈ ini.entries, ¬(e.1 = sec ∧ e.2.1 = key)

/-- That the last entry with a key of a section has this value, or is the key alone. -/
def LastSays (ini : Ini) (sec key : String) (value : Option String) : Prop :=
  ∃ before after, ini.entries = before ++ (sec, key, value) :: after
    ∧ ∀ e ∈ after, ¬(e.1 = sec ∧ e.2.1 = key)

section Entries

variable {ini : Ini} {sec key : String}

theorem Lacks.get?_eq (h : ini.Lacks sec key) : ini.get? sec key = none := get?_of_not_mem h

theorem LastSays.get?_eq {value : Option String} (h : ini.LastSays sec key value) :
    ini.get? sec key = value := by
  obtain ⟨before, after, hentries, hafter⟩ := h
  have hlater : (after.reverse.find? fun e => e.1 == sec && e.2.1 == key) = none := by
    rw [List.find?_eq_none]
    intro e he
    simpa using hafter e (List.mem_reverse.1 he)
  unfold get?
  rw [hentries, List.reverse_append, List.reverse_cons, List.append_assoc, List.find?_append,
    hlater, Option.none_or, List.singleton_append,
    List.find?_cons_of_pos (by rw [beq_self_eq_true, beq_self_eq_true]; rfl)]
  rfl

/-- A key is in no entry, or one of its entries is the last. -/
theorem lacks_or_lastSays (ini : Ini) (sec key : String) :
    ini.Lacks sec key ∨ ∃ value, ini.LastSays sec key value := by
  cases hfind : ini.entries.reverse.find? fun e => e.1 == sec && e.2.1 == key with
  | none =>
      refine .inl fun e he => ?_
      simpa using List.find?_eq_none.1 hfind e (List.mem_reverse.2 he)
  | some e =>
      obtain ⟨hkey, after, before, hentries, hafter⟩ := List.find?_eq_some_iff_append.1 hfind
      obtain ⟨rfl, rfl⟩ : e.1 = sec ∧ e.2.1 = key := by simpa using hkey
      refine .inr ⟨e.2.2, before.reverse, after.reverse, ?_, fun e' he' hsame => ?_⟩
      · simpa using congrArg List.reverse hentries
      · simpa [hsame] using hafter e' (List.mem_reverse.1 he')

end Entries

section Values

variable {β : Type} (ini : Ini) (sec key : String) (read : String → Option β)

/-- The readable value of a key. -/
def value? : Option β := (ini.get? sec key).bind read

/-- What settings make of a value that was `old`: they keep it if the key is missing, if it
has no value and if its value cannot be read. -/
inductive Sets (old : β) : β → Prop where
  | missing (hlacks : ini.Lacks sec key) : Sets old old
  | bare (hlast : ini.LastSays sec key none) : Sets old old
  | unreadable {text : String} (hlast : ini.LastSays sec key (some text))
      (hread : read text = none) : Sets old old
  | readable {text : String} {new : β} (hlast : ini.LastSays sec key (some text))
      (hread : read text = some new) : Sets old new

theorem sets_value? (old : β) : ini.Sets sec key read old ((ini.value? sec key read).getD old) := by
  unfold value?
  rcases lacks_or_lastSays ini sec key with hlacks | ⟨value, hlast⟩
  · rw [hlacks.get?_eq]
    exact .missing hlacks
  · rw [hlast.get?_eq]
    cases value with
    | none => exact .bare hlast
    | some text =>
        rw [Option.bind_some]
        cases hread : read text with
        | none => exact .unreadable hlast hread
        | some new => exact .readable hlast hread

/-- Settings make one thing of a value, by what can be read. -/
theorem sets_iff {old new : β} :
    ini.Sets sec key read old new ↔ new = (ini.value? sec key read).getD old := by
  constructor
  · intro h
    unfold value?
    cases h with
    | missing hlacks => rw [hlacks.get?_eq, Option.bind_none, Option.getD_none]
    | bare hlast => rw [hlast.get?_eq, Option.bind_none, Option.getD_none]
    | unreadable hlast hread =>
        rw [hlast.get?_eq, Option.bind_some, hread, Option.getD_none]
    | readable hlast hread =>
        rw [hlast.get?_eq, Option.bind_some, hread, Option.getD_some]
  · rintro rfl
    exact sets_value? ini sec key read old

end Values

/-- The readable value of the last of some settings that have one. -/
def latest? {β : Type} (inis : List Ini) (sec key : String) (read : String → Option β) :
    Option β :=
  inis.reverse.findSome? fun ini => ini.value? sec key read

/-- What lies over a layer is seen first, and what it does not say is seen in the layer. -/
theorem latest?_cons {β : Type} (ini : Ini) (inis : List Ini) (sec key : String)
    (read : String → Option β) :
    latest? (ini :: inis) sec key read
      = (latest? inis sec key read).or (ini.value? sec key read) := by
  unfold latest?
  rw [List.reverse_cons, List.findSome?_append, List.findSome?_singleton]

end Ini

namespace Config

-- ============================================================== one layer

/-- A whole number of at most 64 bits, with its low 32. -/
def readWord? (text : String) : Option UInt32 :=
  (readBelow? UInt64.size text).map UInt32.ofNat

/-- A configuration with the values that are `said`, by section, key and the way to read
them, and with those of another where nothing is. -/
structure Filled (said : {β : Type} → String → String → (String → Option β) → Option β)
    (c d : Config Float) : Prop where
  width : d.width = (said "window" "width" readWord?).getD c.width
  height : d.height = (said "window" "height" readWord?).getD c.height
  targetFps : d.targetFps = (said "window" "target_fps" readWord?).getD c.targetFps
  timeScale : d.timeScale = (said "time" "time_scale" readFloat?).getD c.timeScale
  images : d.images = (said "assets" "images" fun text => some (some text)).getD c.images
  path : d.path = c.path

/-- A configuration that settings make of another, value by value. -/
structure TakesOver (ini : Ini) (c d : Config Float) : Prop where
  width : ini.Sets "window" "width" readWord? c.width d.width
  height : ini.Sets "window" "height" readWord? c.height d.height
  targetFps : ini.Sets "window" "target_fps" readWord? c.targetFps d.targetFps
  timeScale : ini.Sets "time" "time_scale" readFloat? c.timeScale d.timeScale
  /-- Every value is a path. -/
  images : ini.Sets "assets" "images" (fun text => some (some text)) c.images d.images
  path : d.path = c.path

theorem word_eq (ini : Ini) (sec key : String) (old : UInt32) :
    word ini sec key old = (ini.value? sec key readWord?).getD old := by
  have hmap : ini.value? sec key readWord? = (ini.natural? sec key).map UInt32.ofNat :=
    Option.map_bind.symm
  rw [hmap]
  unfold word
  cases ini.natural? sec key <;> rfl

theorem filled_settled (ini : Ini) (c : Config Float) : Filled ini.value? c (settled ini c) where
  width := word_eq ini "window" "width" c.width
  height := word_eq ini "window" "height" c.height
  targetFps := word_eq ini "window" "target_fps" c.targetFps
  timeScale := rfl
  images := by
    show (ini.get? "assets" "images").or c.images = _
    unfold Ini.value?
    cases ini.get? "assets" "images" <;> rfl
  path := rfl

theorem Filled.takesOver {ini : Ini} {c d : Config Float} (h : Filled ini.value? c d) :
    TakesOver ini c d where
  width := (ini.sets_iff ..).2 h.width
  height := (ini.sets_iff ..).2 h.height
  targetFps := (ini.sets_iff ..).2 h.targetFps
  timeScale := (ini.sets_iff ..).2 h.timeScale
  images := (ini.sets_iff ..).2 h.images
  path := h.path

/-- Settings that are not refused are taken, all of them. -/
theorem settled_of_apply {ini : Ini} {c : Config Float} (h : (apply ini c).1.isOk = true) :
    apply ini c = (.ok (), settled ini c) := by
  cases verdict ini with
  | noFrameRate hrate happly =>
      rw [happly] at h
      cases h
  | badTimeScale hrate hscale hbad happly =>
      rw [happly] at h
      cases h
  | taken hrate hscale happly => exact happly c

/-- A text that loads is read, and all of its values are taken. -/
theorem settled_of_loadText {c d : Config Float} {text : String}
    (h : c.loadText text = (.ok (), d)) : ∃ ini, Ini.parse text = .ok ini ∧ d = settled ini c := by
  unfold loadText at h
  cases hparse : Ini.parse text with
  | error f =>
      rw [hparse] at h
      cases h
  | ok ini =>
      rw [hparse] at h
      dsimp only at h
      refine ⟨ini, rfl, congrArg Prod.snd (h.symm.trans (settled_of_apply ?_))⟩
      rw [h]
      rfl

-- ================================================================= layers

/-- Texts that load one after the other, and what they leave. -/
inductive Loaded : Config Float → List String → Config Float → Prop where
  | nil (c : Config Float) : Loaded c [] c
  | cons {c d e : Config Float} {text : String} {texts : List String}
      (hload : c.loadText text = (.ok (), d)) (hrest : Loaded d texts e) :
      Loaded c (text :: texts) e

theorem filled_nil (c : Config Float) : Filled (Ini.latest? []) c c :=
  ⟨rfl, rfl, rfl, rfl, rfl, rfl⟩

/-- What is filled from one layer and then from those over it is filled from all of them. -/
theorem Filled.over {ini : Ini} {inis : List Ini} {c d e : Config Float}
    (hlow : Filled ini.value? c d) (hhigh : Filled (Ini.latest? inis) d e) :
    Filled (Ini.latest? (ini :: inis)) c e where
  width := by rw [hhigh.width, hlow.width, Ini.latest?_cons, Option.getD_or]
  height := by rw [hhigh.height, hlow.height, Ini.latest?_cons, Option.getD_or]
  targetFps := by rw [hhigh.targetFps, hlow.targetFps, Ini.latest?_cons, Option.getD_or]
  timeScale := by rw [hhigh.timeScale, hlow.timeScale, Ini.latest?_cons, Option.getD_or]
  images := by rw [hhigh.images, hlow.images, Ini.latest?_cons, Option.getD_or]
  path := hhigh.path.trans hlow.path

theorem Loaded.filled {c d : Config Float} {texts : List String} (h : Loaded c texts d) :
    ∃ inis, List.Forall₂ (fun text ini => Ini.parse text = .ok ini) texts inis
      ∧ Filled (Ini.latest? inis) c d := by
  induction h with
  | nil c => exact ⟨[], .nil, filled_nil c⟩
  | @cons c d e text texts hload hrest ih =>
      obtain ⟨ini, hparse, rfl⟩ := settled_of_loadText hload
      obtain ⟨inis, hall, hhigh⟩ := ih
      exact ⟨ini :: inis, .cons hparse hall, (filled_settled ini c).over hhigh⟩

-- ================================================================== twice

theorem word_word (ini : Ini) (sec key : String) (old : UInt32) :
    word ini sec key (word ini sec key old) = word ini sec key old := by
  unfold word
  cases ini.natural? sec key <;> rfl

theorem applySize_applySize (ini : Ini) (c : Config Float) :
    applySize ini (applySize ini c) = applySize ini c :=
  applySize_eq_self_iff.2 ⟨word_word .., word_word ..⟩

theorem timed_timed (ini : Ini) (c : Config Float) : timed ini (timed ini c) = timed ini c :=
  timed_eq_self_iff.2 ⟨word_word .., word_word .., word_word ..⟩

theorem settled_settled (ini : Ini) (c : Config Float) :
    settled ini (settled ini c) = settled ini c := by
  have htimed : timed ini (settled ini c) = settled ini c :=
    timed_eq_self_iff.2 ⟨word_word .., word_word .., word_word ..⟩
  have hscale : (ini.float? "time" "time_scale").getD (settled ini c).timeScale
      = (settled ini c).timeScale := by
    unfold settled
    cases ini.float? "time" "time_scale" <;> rfl
  have himages : (ini.get? "assets" "images").or (settled ini c).images
      = (settled ini c).images := by
    unfold settled
    cases ini.get? "assets" "images" <;> rfl
  show ({ timed ini (settled ini c) with
    timeScale := (ini.float? "time" "time_scale").getD (settled ini c).timeScale
    images := (ini.get? "assets" "images").or (settled ini c).images } : Config Float) = _
  rw [htimed, hscale, himages]

/-- Settings that have been applied once have nothing left to change. -/
theorem apply_apply (ini : Ini) (c : Config Float) :
    apply ini (apply ini c).2 = apply ini c := by
  cases verdict ini with
  | noFrameRate hrate happly => rw [happly, happly, applySize_applySize]
  | badTimeScale hrate hscale hbad happly => rw [happly, happly, timed_timed]
  | taken hrate hscale happly => rw [happly, happly, settled_settled]

theorem loadText_loadText (c : Config Float) (text : String) :
    (c.loadText text).2.loadText text = c.loadText text := by
  unfold loadText
  cases Ini.parse text with
  | error f => rfl
  | ok ini => exact apply_apply ini c

/-- A text that is loaded again changes nothing and answers the same, also if it fails. A
text that loads changes no value that it does not say readably, and never the path. Of
texts that load one after the other, the last that says a value gives it. -/
theorem texts_lie_over_each_other (c : Config Float) :
    (∀ text, (c.loadText text).2.loadText text = c.loadText text)
      ∧ (∀ text d, c.loadText text = (.ok (), d) →
          ∃ ini, Ini.parse text = .ok ini ∧ TakesOver ini c d)
      ∧ (∀ texts d, Loaded c texts d →
          ∃ inis, List.Forall₂ (fun text ini => Ini.parse text = .ok ini) texts inis
            ∧ Filled (Ini.latest? inis) c d) := by
  refine ⟨loadText_loadText c, fun text d hload => ?_, fun texts d hloaded => hloaded.filled⟩
  obtain ⟨ini, hparse, rfl⟩ := settled_of_loadText hload
  exact ⟨ini, hparse, (filled_settled ini c).takesOver⟩

/-- Settings of a size and of images. -/
private def lowText : String :=
  "[window]\nwidth=320\nheight=200\n[assets]\nimages=a.json\n"

/-- Settings of a width above 32 bits, a height that is no number, a frame rate without a
value, and a time scale. -/
private def highText : String :=
  "[window]\nwidth=4294967297\nheight=tall\ntarget_fps\n[time]\ntime_scale=0.5\n"

/-- The height and the images are seen through the upper text, and the frame rate
through both. -/
theorem height_is_seen_below : ∃ d,
    Loaded (.new "") [lowText, highText] d
      ∧ (∃ inis, List.Forall₂ (fun text ini => Ini.parse text = .ok ini) [lowText, highText] inis
        ∧ Filled (Ini.latest? inis) (.new "") d)
      ∧ d.width = 1 ∧ d.height = 200 ∧ d.targetFps = 60 ∧ d.timeScale = 0.5
      ∧ d.images = some "a.json" := by
  have hlow : Ini.parse lowText = .ok ⟨[("window", "width", some "320"),
      ("window", "height", some "200"), ("assets", "images", some "a.json")]⟩ := by
    rw [Ini.parse_eq]
    decide +kernel
  have hhigh : Ini.parse highText = .ok ⟨[("window", "width", some "4294967297"),
      ("window", "height", some "tall"), ("window", "target_fps", none),
      ("time", "time_scale", some "0.5")]⟩ := by
    rw [Ini.parse_eq]
    decide +kernel
  have hloaded : Loaded (.new "") [lowText, highText] _ :=
    .cons ((Load.run_of_found (Load.found_of_parse hlow (.new ""))).trans
        (settled_of_apply (by decide +kernel)))
      (.cons ((Load.run_of_found (Load.found_of_parse hhigh _)).trans
        (settled_of_apply (by decide +kernel))) (.nil _))
  refine ⟨_, hloaded, (texts_lie_over_each_other (.new "")).2.2 _ _ hloaded, ?_⟩
  decide +kernel

end Config

end Stagecraft
