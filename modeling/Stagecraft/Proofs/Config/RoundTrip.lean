/-
What becomes of a configuration that is saved and loaded again.

The writer puts each value on a line of its own, and the reader keeps of it
what stands before a comment mark, without the blanks around it. Of a number
it keeps all, since numbers are spelled with solid characters only; of the
path of the images it may keep less (`reread`), and then this is what the
second configuration has. No other character means anything in a value, so a
path with brackets, colons or equals signs comes back as it is.

The order in which sections and keys are written does not count. That the
spelling of a double is read as this double is assumed of the time scale.
-/
import Stagecraft.Proofs.Config.Loading
import Stagecraft.Proofs.Files

namespace Stagecraft

/-- Of a value of solid characters the reader keeps all. -/
theorem Ini.kept_of_solid {value : List Char} (h : ∀ c ∈ value, IsSolid c) :
    kept value = String.ofList value := by
  have hcomment : value.takeWhile (fun c => !isComment c) = value :=
    List.takeWhile_eq_self_iff.2 fun c hc => by rw [(h c hc).2.2]; rfl
  have hblank : ∀ c ∈ value, Text.isBlank c = false := fun c hc =>
    Text.not_isBlank_of_visible ⟨(h c hc).1, (h c hc).2.1⟩
  unfold kept Text.trim
  rw [hcomment, Text.strip_of_bare ⟨fun c hc => hblank c (List.mem_of_mem_head? hc),
    fun c hc => hblank c (List.mem_of_getLast? hc)⟩]

/-- A value is kept as it is if no comment begins in it and its ends are not blank, and
only then. -/
theorem Ini.kept_eq_iff {value : String} : kept value.toList = value
    ↔ (∀ c ∈ value.toList, isComment c = false) ∧ Text.Bare Text.isBlank value.toList := by
  have hlist : kept value.toList = value
      ↔ Text.trim (value.toList.takeWhile fun c => !isComment c) = value.toList := by
    rw [← String.toList_inj]
    unfold kept
    rw [String.toList_ofList]
  rw [hlist]
  constructor
  · intro hkept
    have hall : value.toList.takeWhile (fun c => !isComment c) = value.toList := by
      refine (List.takeWhile_prefix _).eq_of_length_le ?_
      calc value.toList.length
          = (Text.trim (value.toList.takeWhile fun c => !isComment c)).length := by rw [hkept]
        _ ≤ (value.toList.takeWhile fun c => !isComment c).length := Text.length_strip_le _ _
    rw [hall] at hkept
    refine ⟨fun c hc => ?_, Text.strip_eq_self_iff.1 hkept⟩
    have hsolid := List.takeWhile_eq_self_iff.1 hall c hc
    simpa using hsolid
  · rintro ⟨hcomment, hbare⟩
    rw [List.takeWhile_eq_self_iff.2 fun c hc => by rw [hcomment c hc]; rfl]
    exact Text.strip_of_bare hbare

/-- A word of 32 bits is read as it was written. -/
theorem Ini.natural?_of_kept {ini : Ini} {sec key : String} {x : UInt32}
    (h : ini.get? sec key = some (kept (toString x).toList)) :
    ini.natural? sec key = some x.toNat := by
  have htext : (toString x).toList = Decimal.digits x.toNat := toList_toString x.toNat
  have hkept : kept (toString x).toList = toString x.toNat := by
    rw [kept_of_solid, String.ofList_toList]
    · rfl
    · intro c hc
      exact Decimal.isSolid_of_mem_digits (htext ▸ hc)
  unfold natural?
  rw [h, hkept, Option.bind_some]
  exact readBelow?_toString (x.toNat_lt.trans (by decide))

namespace Config

-- =============================================================== sections

variable {c : Config Float}

/-- The values of a configuration are texts of one line if its images are. -/
theorem plain_sections (himages : ∀ s ∈ c.images, '\n' ∉ s.toList) :
    Ini.Document.Plain c.sections := by
  have hnewline : ¬Ini.IsSolid '\n' := by decide
  have hword : ∀ x : UInt32, '\n' ∉ (toString x).toList := fun x hmem =>
    hnewline (Decimal.isSolid_of_mem_digits (n := x.toNat) (toList_toString x.toNat ▸ hmem))
  have hscale : '\n' ∉ (Fault.amount c.timeScale).toList := fun hmem =>
    hnewline (Decimal.isSolid_of_mem_amount hmem)
  have hwords : ∀ name ∈ ["window", "width", "height", "target_fps", "time", "time_scale",
      "assets", "images"], Ini.IsWord name := by simp [Ini.IsWord]
  simp only [List.forall_mem_cons] at hwords
  unfold Ini.Document.Plain sections
  cases himage : c.images with
  | none => simp only [List.append_nil, List.forall_mem_cons, hword, hscale, hwords]; simp
  | some images =>
      have hline := himages images himage
      simp only [List.cons_append, List.nil_append, List.forall_mem_cons, hword, hscale, hline,
        hwords]
      simp

/-- No key is written twice. -/
theorem distinct_sections (c : Config Float) : Ini.Distinct (Ini.Document.entries c.sections) := by
  unfold sections
  cases c.images with
  | none =>
      show List.Nodup [("window", "width"), ("window", "height"), ("window", "target_fps"),
        ("time", "time_scale")]
      decide
  | some s =>
      show List.Nodup [("window", "width"), ("window", "height"), ("window", "target_fps"),
        ("time", "time_scale"), ("assets", "images")]
      decide

-- ================================================================ reading

/-- The configuration that is found when this one was saved: of its images there is
what the reader keeps. -/
def reread (c : Config Float) : Config Float :=
  { c with images := c.images.map fun s => Ini.kept s.toList }

/-- The settings have the values of the configuration, as far as the reader keeps
them. -/
structure HeldBy (c : Config Float) (ini : Ini) : Prop where
  width : ini.natural? "window" "width" = some c.width.toNat
  height : ini.natural? "window" "height" = some c.height.toNat
  targetFps : ini.natural? "window" "target_fps" = some c.targetFps.toNat
  timeScale : ini.float? "time" "time_scale" = some c.timeScale
  images : ini.get? "assets" "images" = c.images.map fun s => Ini.kept s.toList

/-- A configuration is held by what is read of its sections, in whatever order they
and their keys are written. -/
theorem heldBy_of_reordered {d : Ini.Document}
    (hscale : readFloat? (Fault.amount c.timeScale) = some c.timeScale)
    (horder : Ini.Document.Reordered c.sections d) : c.HeldBy ⟨d.entries⟩ := by
  have hkey : ∀ s ∈ c.sections, ∀ p ∈ s.2,
      (⟨d.entries⟩ : Ini).get? s.1 p.1 = some (Ini.kept p.2.toList) := fun s hs p hp =>
    Ini.get?_of_reordered horder (distinct_sections c) hs hp
  have hwindow : ∀ p ∈ [("width", toString c.width), ("height", toString c.height),
      ("target_fps", toString c.targetFps)],
      (⟨d.entries⟩ : Ini).get? "window" p.1 = some (Ini.kept p.2.toList) :=
    hkey ("window", _) (List.mem_append_left _ List.mem_cons_self)
  simp only [List.forall_mem_cons] at hwindow
  obtain ⟨hwidth, hheight, hrate, -⟩ := hwindow
  constructor
  case width => exact Ini.natural?_of_kept hwidth
  case height => exact Ini.natural?_of_kept hheight
  case targetFps => exact Ini.natural?_of_kept hrate
  case timeScale =>
    have htime : (⟨d.entries⟩ : Ini).get? "time" "time_scale"
        = some (Ini.kept (Fault.amount c.timeScale).toList) :=
      hkey ("time", [("time_scale", _)])
        (List.mem_append_left _ (List.mem_cons_of_mem _ List.mem_cons_self)) _ List.mem_cons_self
    rw [Ini.kept_of_solid fun _ => Decimal.isSolid_of_mem_amount, String.ofList_toList] at htime
    unfold Ini.float?
    rw [htime, Option.bind_some, hscale]
  case images =>
    cases himages : c.images with
    | none =>
        rw [Ini.get?_of_perm horder.entries_perm (distinct_sections c)]
        refine Ini.get?_of_not_mem fun e he => ?_
        rintro ⟨hsec, -⟩
        unfold sections at he
        rw [himages] at he
        have hsections : e.1 ∈ ["window", "window", "window", "time"] := List.mem_map_of_mem he
        rw [hsec] at hsections
        revert hsections
        decide
    | some images =>
        refine hkey ("assets", [("images", images)]) ?_ _ List.mem_cons_self
        unfold sections
        rw [himages]
        exact List.mem_append_right _ List.mem_cons_self

/-- Whatever there was, but for the images, is replaced by values that are held. -/
theorem run_of_heldBy {d : Config Float} {load : Load} {ini : Ini} (h : c.HeldBy ini)
    (hrate : 1 ≤ c.targetFps) (hscale : Forward c.timeScale) (hfound : load.found d = .ok ini)
    (hpath : d.path = c.path) (hnone : d.images = none) : load.run d = (.ok (), c.reread) := by
  have hword : ∀ {sec key : String} {x : UInt32} (old : UInt32),
      ini.natural? sec key = some x.toNat → word ini sec key old = x := by
    intro sec key x old hx
    unfold word
    rw [hx]
    exact UInt32.ofNat_toNat
  have hpos : c.targetFps.toNat ≠ 0 := Nat.one_le_iff_ne_zero.1 (UInt32.le_iff_toNat_le.1 hrate)
  have hending := load.ending d
  generalize load.run d = answer at hending
  cases hending with
  | unread hfails =>
      rw [hfound] at hfails
      cases hfails
  | noFrameRate hini hzero =>
      cases hfound.symm.trans hini
      exact absurd (Option.some.inj (h.targetFps.symm.trans hzero)) hpos
  | badTimeScale hini hrate' hx hbad =>
      cases hfound.symm.trans hini
      cases h.timeScale.symm.trans hx
      exact absurd hscale hbad
  | loaded hini hrate' hscale' =>
      cases hfound.symm.trans hini
      have hsettled : settled ini d = c.reread := by
        unfold settled timed applySize reread
        rw [hword _ h.width, hword _ h.height, hword _ h.targetFps, h.timeScale, h.images, hpath,
          hnone, Option.or_none]
        rfl
      rw [hsettled]

/-- The text of a configuration, with its sections and keys in any order, is loaded
over any other configuration without images as what is kept of the first one. -/
theorem loadFile_render {d : Config Float} {ss : Ini.Document} {read : FileReader}
    (hrate : 1 ≤ c.targetFps) (hscale : Forward c.timeScale)
    (himages : ∀ s ∈ c.images, '\n' ∉ s.toList)
    (hspelled : readFloat? (Fault.amount c.timeScale) = some c.timeScale)
    (horder : Ini.Document.Reordered c.sections ss) (hread : read d.path = .ok (Ini.render ss))
    (hpath : d.path = c.path) (hnone : d.images = none) :
    d.loadFile read = (.ok (), c.reread) := by
  have hfound : (Load.file read).found d = .ok ⟨ss.entries⟩ :=
    Load.found_of_read hread (Ini.Document.parse_render (horder.plain (plain_sections himages)))
  exact run_of_heldBy (heldBy_of_reordered hspelled horder) hrate hscale hfound hpath hnone

theorem reread_eq_iff : c.reread = c ↔ ∀ s ∈ c.images,
    (∀ x ∈ s.toList, Ini.isComment x = false) ∧ Text.Bare Text.isBlank s.toList := by
  have hsame : c.reread = c ↔ c.images.map (fun s => Ini.kept s.toList) = c.images := by
    constructor
    · exact congrArg images
    · intro himages
      unfold reread
      rw [himages]
  rw [hsame]
  cases c.images with
  | none => simp
  | some s => simp [Ini.kept_eq_iff]

/-- Where a file can be written, and is not the one that is always empty, a configuration
is saved, and loading the file into a configuration without images gives what is kept
of the first one, whatever the order in which the sections and their keys are
written. That is the first one itself if no comment begins in the path of its images,
which is not blank at its ends, and only then. -/
theorem saved_settings_load_again {d : Config Float} {files writable : FileTree} {text : String}
    (hrate : 1 ≤ c.targetFps) (hscale : Forward c.timeScale)
    (himages : ∀ s ∈ c.images, '\n' ∉ s.toList)
    (hspelled : readFloat? (Fault.amount c.timeScale) = some c.timeScale)
    (hwritable : files.write c.path text = .ok writable)
    (hfile : Place.ofPath files.start c.path ≠ .null)
    (hpath : d.path = c.path) (hnone : d.images = none) :
    (∃ saved, c.save files = .ok saved ∧ d.loadFile saved.read = (.ok (), c.reread))
      ∧ (∀ ss, Ini.Document.Reordered c.sections ss → ∃ saved,
          files.write c.path (Ini.render ss) = .ok saved
            ∧ d.loadFile saved.read = (.ok (), c.reread))
      ∧ (c.reread = c ↔ ∀ s ∈ c.images,
          (∀ x ∈ s.toList, Ini.isComment x = false) ∧ Text.Bare Text.isBlank s.toList) := by
  have hagain : ∀ ss, Ini.Document.Reordered c.sections ss → ∃ saved,
      files.write c.path (Ini.render ss) = .ok saved
        ∧ d.loadFile saved.read = (.ok (), c.reread) := by
    intro ss horder
    obtain ⟨saved, hsaved⟩ := FileTree.write_of_write hwritable (Ini.render ss)
    have hread := FileTree.read_write hsaved
    rw [if_neg hfile, ← hpath] at hread
    exact ⟨saved, hsaved, loadFile_render hrate hscale himages hspelled horder hread hpath hnone⟩
  obtain ⟨saved, hsaved, hloaded⟩ := hagain c.sections (Ini.Document.reordered_refl _)
  refine ⟨⟨saved, ?_, hloaded⟩, hagain, reread_eq_iff⟩
  unfold save
  rw [hsaved]

/-- Half speed, with a path of images in which a comment begins. -/
private def halfSpeed : Config Float :=
  { width := 320, height := 200, targetFps := 25, timeScale := 0.5
    images := some " a=[b]: c.json ; later", path := "settings.ini" }

/-- The comment in the path of the images is lost, and the brackets stay. -/
theorem half_speed_is_loaded_again :
    1 ≤ halfSpeed.targetFps
      ∧ Forward halfSpeed.timeScale
      ∧ (∀ s ∈ halfSpeed.images, '\n' ∉ s.toList)
      ∧ readFloat? (Fault.amount halfSpeed.timeScale) = some halfSpeed.timeScale
      ∧ Place.ofPath FileTree.empty.start halfSpeed.path ≠ .null
      ∧ ∃ saved, halfSpeed.save .empty = .ok saved
        ∧ (new "settings.ini").loadFile saved.read
          = (.ok (), { halfSpeed with images := some "a=[b]: c.json" }) := by
  have hrate : 1 ≤ halfSpeed.targetFps := by decide
  have hscale : Forward halfSpeed.timeScale := by decide +kernel
  have himages : ∀ s ∈ halfSpeed.images, '\n' ∉ s.toList := by
    simp [halfSpeed]
  have hspelled : readFloat? (Fault.amount halfSpeed.timeScale) = some halfSpeed.timeScale := by
    decide +kernel
  have hsplit : "settings.ini".splitOn "/" = ["settings.ini"] :=
    (Text.splitOn_eq _ '/').trans (by decide +kernel)
  have hfile : Place.ofPath FileTree.empty.start halfSpeed.path ≠ .null := by
    show Place.ofPath ["home", "here"] "settings.ini" ≠ .null
    unfold Place.ofPath
    rw [hsplit]
    decide +kernel
  have hleads : FileTree.empty.Leads halfSpeed.path ["home", "here", "settings.ini"] := by
    have hplain : ("settings.ini".any fun c => c.toNat == 0) = false := by
      simp [String.any]
    refine ⟨["home", "here"], ["settings.ini"], ["home", "here"], ?_, rfl, by decide, by decide⟩
    show FileTree.empty.steps "settings.ini" = _
    unfold FileTree.steps
    rw [hsplit, hplain]
    decide +kernel
  have hwritable := hleads.write_eq (by decide +kernel) ""
  obtain ⟨⟨saved, hsaved, hloaded⟩, -, -⟩ := saved_settings_load_again (d := new "settings.ini")
    hrate hscale himages hspelled hwritable hfile rfl rfl
  refine ⟨hrate, hscale, himages, hspelled, hfile, saved, hsaved, hloaded.trans ?_⟩
  have hkept : Ini.kept " a=[b]: c.json ; later".toList = "a=[b]: c.json" := by decide +kernel
  unfold reread
  show (_, { halfSpeed with images := some (Ini.kept " a=[b]: c.json ; later".toList) }) = _
  rw [hkept]

end Config

end Stagecraft
