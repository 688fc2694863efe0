/-
What loading settings does to a configuration.

A load finds settings, or a fault, and then takes the values one after the
other: sizes, frame rate, time scale, images. There are four ways for this to
end (`Load.Ending`), and everything below is read off them.

# A load that fails

If there are no settings to be found the configuration is as it was. But
there are two values that may be refused, and what was taken before them
stays. So a load that fails may leave another width, another height and
another frame rate, but no other time scale and no other images (`CutShort`).

# What loads keep

The time scale is looked at as it is stored, so no list of loads, whatever
it reads and however the loads end, takes away that it is positive and
finite. The frame rate is looked at with 64 bits and stored with 32. It is
the remainder of the last rate that was taken, which is zero for a multiple
of 2 ^ 32.
-/
import Stagecraft.CommandLine
import Stagecraft.Proofs.Config.Documents
import Stagecraft.Proofs.Game.Time
import Stagecraft.Proofs.Text.Numbers

namespace Stagecraft

/-- Over doubles a time scale is allowed if time goes forward at it. -/
theorem isDelay_iff_forward {x : Float} : isDelay x = true ↔ Forward x := by
  unfold isDelay Forward
  rw [Double.isFinite_eq, Bool.and_eq_true, Bool.and_eq_true, Bool.not_eq_true',
    decide_eq_false_iff_not]
  constructor
  · rintro ⟨⟨hnumber, hpos⟩, hfinite⟩
    exact ⟨Double.pos_of_not_le hnumber hpos, hfinite⟩
  · rintro ⟨hpos, hfinite⟩
    refine ⟨⟨?_, Double.not_le_zero_of_pos hpos⟩, hfinite⟩
    obtain ⟨m, e, hm, hparts⟩ := Double.parts_of_pos hpos hfinite
    rw [Double.isNumber_iff, hparts]
    exact fun h => nomatch h

namespace Config

-- =============================================================== one load

/-- A load of settings, from a text or from the file at the path of the
configuration. -/
inductive Load where
  | text (text : String)
  | file (read : FileReader)

namespace Load

/-- The settings that a load finds. -/
def found (c : Config Float) : Load → Except ConfigFault Ini
  | text t => (Ini.parse t).mapError .badText
  | file read =>
    match read c.path with
    | .ok t => (Ini.parse t).mapError (.badFile c.path)
    | .error f => .error (.unreadable c.path f)

/-- What a load answers, and the configuration that it leaves. -/
def run (c : Config Float) : Load → Except ConfigFault Unit × Config Float
  | text t => c.loadText t
  | file read => c.loadFile read

/-- A load applies the settings that it finds, and does nothing if it finds none. -/
theorem run_eq (c : Config Float) (load : Load) :
    load.run c = match load.found c with
      | .ok ini => apply ini c
      | .error f => (.error f, c) := by
  cases load with
  | text t =>
      dsimp only [run, found, loadText]
      cases Ini.parse t <;> rfl
  | file read =>
      dsimp only [run, found, loadFile]
      cases read c.path with
      | error f => rfl
      | ok t =>
          dsimp only
          cases Ini.parse t <;> rfl

theorem found_of_parse {text : String} {ini : Ini} (h : Ini.parse text = .ok ini)
    (c : Config Float) : (Load.text text).found c = .ok ini := by
  dsimp only [found]
  rw [h]
  rfl

theorem found_of_read {c : Config Float} {read : FileReader} {text : String} {ini : Ini}
    (hread : read c.path = .ok text) (h : Ini.parse text = .ok ini) :
    (Load.file read).found c = .ok ini := by
  dsimp only [found]
  rw [hread]
  dsimp only
  rw [h]
  rfl

theorem run_of_found {c : Config Float} {load : Load} {ini : Ini} (h : load.found c = .ok ini) :
    load.run c = apply ini c := by
  rw [run_eq, h]

/-- The settings that are found depend on the path of the configuration alone. -/
theorem found_of_path {c d : Config Float} (h : c.path = d.path) (load : Load) :
    load.found c = load.found d := by
  cases load with
  | text t => rfl
  | file read =>
      unfold found
      rw [h]

end Load

/-- The configuration with the sizes and the frame rate of settings. -/
def timed (ini : Ini) (c : Config Float) : Config Float :=
  { applySize ini c with targetFps := word ini "window" "target_fps" c.targetFps }

/-- The configuration with all values of settings. -/
def settled (ini : Ini) (c : Config Float) : Config Float :=
  { timed ini c with
    timeScale := (ini.float? "time" "time_scale").getD c.timeScale
    images := (ini.get? "assets" "images").or c.images }

/-- How a load ends: without settings, at a frame rate of zero, at a time scale at
which time does not go forward, or with all values taken. -/
inductive Load.Ending (c : Config Float) (load : Load) :
    Except ConfigFault Unit × Config Float → Prop where
  | unread {f : ConfigFault} (hfound : load.found c = .error f) : Ending c load (.error f, c)
  | noFrameRate {ini : Ini} (hfound : load.found c = .ok ini)
      (hrate : ini.natural? "window" "target_fps" = some 0) :
      Ending c load (.error .noFrameRate, applySize ini c)
  | badTimeScale {ini : Ini} {x : Float} {f : Fault Float} (hfound : load.found c = .ok ini)
      (hrate : ini.natural? "window" "target_fps" ≠ some 0)
      (hscale : ini.float? "time" "time_scale" = some x) (hbad : ¬Forward x) :
      Ending c load (.error (.badTimeScale f), timed ini c)
  | loaded {ini : Ini} (hfound : load.found c = .ok ini)
      (hrate : ini.natural? "window" "target_fps" ≠ some 0)
      (hscale : ∀ x, ini.float? "time" "time_scale" = some x → Forward x) :
      Ending c load (.ok (), settled ini c)

theorem applyFps_eq (ini : Ini) (c : Config Float) :
    applyFps ini (applySize ini c)
      = if ini.natural? "window" "target_fps" = some 0 then .error .noFrameRate
        else .ok (timed ini c) := rfl

theorem applyImages_eq (ini : Ini) (c : Config Float) (x : Float)
    (hx : (ini.float? "time" "time_scale").getD c.timeScale = x) :
    applyImages ini { timed ini c with timeScale := x } = settled ini c := by
  unfold applyImages settled
  rw [hx]
  cases ini.get? "assets" "images" <;> rfl

/-- What settings come to, whatever the configuration was: they are refused at the frame
rate, refused at the time scale, or taken. -/
inductive Verdict (ini : Ini) : Prop where
  | noFrameRate (hrate : ini.natural? "window" "target_fps" = some 0)
      (happly : ∀ c, apply ini c = (.error .noFrameRate, applySize ini c))
  | badTimeScale {x : Float} {f : Fault Float}
      (hrate : ini.natural? "window" "target_fps" ≠ some 0)
      (hscale : ini.float? "time" "time_scale" = some x) (hbad : ¬Forward x)
      (happly : ∀ c, apply ini c = (.error (.badTimeScale f), timed ini c))
  | taken (hrate : ini.natural? "window" "target_fps" ≠ some 0)
      (hscale : ∀ x, ini.float? "time" "time_scale" = some x → Forward x)
      (happly : ∀ c, apply ini c = (.ok (), settled ini c))

theorem apply_of_badScale {ini : Ini} {c : Config Float} {f : ConfigFault}
    (hrate : ini.natural? "window" "target_fps" ≠ some 0)
    (hscale : applyScale ini (timed ini c) = .error f) : apply ini c = (.error f, timed ini c) := by
  unfold apply
  dsimp only
  rw [applyFps_eq, if_neg hrate]
  dsimp only
  rw [hscale]

theorem apply_of_scaled {ini : Ini} {c scaled : Config Float}
    (hrate : ini.natural? "window" "target_fps" ≠ some 0)
    (hscale : applyScale ini (timed ini c) = .ok scaled) :
    apply ini c = (.ok (), applyImages ini scaled) := by
  unfold apply
  dsimp only
  rw [applyFps_eq, if_neg hrate]
  dsimp only
  rw [hscale]

theorem verdict (ini : Ini) : Verdict ini := by
  by_cases hrate : ini.natural? "window" "target_fps" = some 0
  · refine .noFrameRate hrate fun c => ?_
    unfold apply
    dsimp only
    rw [applyFps_eq, if_pos hrate]
  · cases hscale : ini.float? "time" "time_scale" with
    | none =>
        refine .taken hrate (fun x hx => nomatch hscale.symm.trans hx) fun c => ?_
        have hkept : applyScale ini (timed ini c) = .ok (timed ini c) := by
          unfold applyScale
          rw [hscale]
        have hsame : applyImages ini (timed ini c) = settled ini c :=
          applyImages_eq ini c c.timeScale (by rw [hscale]; rfl)
        rw [apply_of_scaled hrate hkept, hsame]
    | some x =>
        cases hdelay : isDelay x with
        | true =>
            refine .taken hrate (fun y hy => ?_) fun c => ?_
            · cases hscale.symm.trans hy
              exact isDelay_iff_forward.1 hdelay
            · have hscaled : applyScale ini (timed ini c)
                  = .ok { timed ini c with timeScale := x } := by
                unfold applyScale
                rw [hscale]
                dsimp only
                rw [ensurePositive_of_isDelay hdelay]
              rw [apply_of_scaled hrate hscaled, applyImages_eq ini c x (by rw [hscale]; rfl)]
        | false =>
            obtain ⟨f, hf⟩ := ensurePositive_of_not_isDelay hdelay "time_scale"
            refine .badTimeScale (f := f) hrate hscale (fun hforward => ?_) fun c => ?_
            · cases hdelay.symm.trans (isDelay_iff_forward.2 hforward)
            · refine apply_of_badScale hrate ?_
              unfold applyScale
              rw [hscale]
              dsimp only
              rw [hf]

/-- Every load ends in one of the four ways. -/
theorem Load.ending (c : Config Float) (load : Load) : load.Ending c (load.run c) := by
  rw [run_eq]
  cases hfound : load.found c with
  | error f => exact .unread hfound
  | ok ini =>
      dsimp only
      cases verdict ini with
      | noFrameRate hrate happly => exact happly c ▸ .noFrameRate hfound hrate
      | badTimeScale hrate hscale hbad happly =>
          exact happly c ▸ .badTimeScale hfound hrate hscale hbad
      | taken hrate hscale happly => exact happly c ▸ .loaded hfound hrate hscale

-- ========================================================== failed loads

/-- What a load that fails with `f` has taken of settings: the sizes, and the frame
rate too unless it is what was refused. -/
structure Taken (c : Config Float) (ini : Ini) (f : ConfigFault) (left : Config Float) : Prop where
  width : left.width = word ini "window" "width" c.width
  height : left.height = word ini "window" "height" c.height
  cause : (f = .noFrameRate ∧ ini.natural? "window" "target_fps" = some 0
      ∧ left.targetFps = c.targetFps)
    ∨ (∃ x g, f = .badTimeScale g ∧ ini.float? "time" "time_scale" = some x ∧ ¬Forward x
      ∧ left.targetFps = word ini "window" "target_fps" c.targetFps)

/-- Whether the configuration has what would be taken of settings before a load fails. -/
def HasTaken (c : Config Float) (ini : Ini) : Prop :=
  word ini "window" "width" c.width = c.width
    ∧ word ini "window" "height" c.height = c.height
    ∧ (ini.natural? "window" "target_fps" = some 0
      ∨ word ini "window" "target_fps" c.targetFps = c.targetFps)

/-- What a load that fails with `f` leaves of a configuration. -/
structure CutShort (c : Config Float) (load : Load) (f : ConfigFault) (left : Config Float) :
    Prop where
  /-- The time scale, the images and the path are as they were. -/
  kept : left.timeScale = c.timeScale ∧ left.images = c.images ∧ left.path = c.path
  /-- If no settings were found, all else is too. -/
  unread : ∀ g, load.found c = .error g → f = g ∧ left = c
  taken : ∀ ini, load.found c = .ok ini → Taken c ini f left
  /-- So nothing has changed exactly if what was taken is what there was. -/
  unchanged : left = c ↔ ∀ ini, load.found c = .ok ini → c.HasTaken ini

theorem applySize_eq_self_iff {ini : Ini} {c : Config Float} :
    applySize ini c = c ↔ word ini "window" "width" c.width = c.width
      ∧ word ini "window" "height" c.height = c.height := by
  constructor
  · intro h
    exact ⟨congrArg Config.width h, congrArg Config.height h⟩
  · rintro ⟨hwidth, hheight⟩
    unfold applySize
    rw [hwidth, hheight]

theorem timed_eq_self_iff {ini : Ini} {c : Config Float} :
    timed ini c = c ↔ word ini "window" "width" c.width = c.width
      ∧ word ini "window" "height" c.height = c.height
      ∧ word ini "window" "target_fps" c.targetFps = c.targetFps := by
  constructor
  · intro h
    exact ⟨congrArg Config.width h, congrArg Config.height h, congrArg Config.targetFps h⟩
  · rintro ⟨hwidth, hheight, hrate⟩
    unfold timed
    rw [hrate, applySize_eq_self_iff.2 ⟨hwidth, hheight⟩]

/-- Where settings were found it is enough to look at these. -/
theorem CutShort.of_found {c left : Config Float} {load : Load} {f : ConfigFault} {ini : Ini}
    (hfound : load.found c = .ok ini)
    (hkept : left.timeScale = c.timeScale ∧ left.images = c.images ∧ left.path = c.path)
    (htaken : Taken c ini f left) (hsame : left = c ↔ c.HasTaken ini) :
    CutShort c load f left where
  kept := hkept
  unread g hg := by cases hfound.symm.trans hg
  taken ini' hini := by
    cases hfound.symm.trans hini
    exact htaken
  unchanged := by
    rw [hsame]
    constructor
    · intro hhas ini' hini
      cases hfound.symm.trans hini
      exact hhas
    · exact fun hhas => hhas ini hfound

/-- A load that fails leaves what it took before it failed, and that is never the time
scale and never the images. -/
theorem failed_load_keeps_what_it_took {c : Config Float} {load : Load} {f : ConfigFault}
    (h : (load.run c).1 = .error f) : CutShort c load f (load.run c).2 := by
  have hending := load.ending c
  generalize load.run c = answer at h hending
  cases hending with
  | unread hfound =>
      cases h
      refine ⟨⟨rfl, rfl, rfl⟩, ?_, ?_, ?_⟩
      · intro g hg
        cases hfound.symm.trans hg
        exact ⟨rfl, rfl⟩
      · intro ini hini
        cases hfound.symm.trans hini
      · exact iff_of_true rfl fun ini hini => nomatch hfound.symm.trans hini
  | @noFrameRate ini hfound hrate =>
      cases h
      refine .of_found hfound ⟨rfl, rfl, rfl⟩ ⟨rfl, rfl, .inl ⟨rfl, hrate, rfl⟩⟩ ?_
      rw [applySize_eq_self_iff]
      exact ⟨fun hsize => ⟨hsize.1, hsize.2, .inl hrate⟩, fun hsame => ⟨hsame.1, hsame.2.1⟩⟩
  | @badTimeScale ini x g hfound hrate hscale hbad =>
      cases h
      refine .of_found hfound ⟨rfl, rfl, rfl⟩
        ⟨rfl, rfl, .inr ⟨x, g, rfl, hscale, hbad, rfl⟩⟩ ?_
      unfold HasTaken
      rw [timed_eq_self_iff, or_iff_right hrate]
  | loaded hfound hrate hscale => cases h

/-- The settings of a window and a frame rate, with a time scale below zero. -/
private def backwardText : String :=
  "[window]\nwidth=320\ntarget_fps=25\n[time]\ntime_scale=-2\n[assets]\nimages=a.json\n"

/-- Settings with a time scale below zero leave their width and their frame rate, but
not their images. -/
theorem backward_scale_is_refused_late : ∃ f,
    ((Load.text backwardText).run (.new "")).1 = .error f
      ∧ CutShort (.new "") (.text backwardText) f ((Load.text backwardText).run (.new "")).2
      ∧ ((Load.text backwardText).run (.new "")).2.width = 320
      ∧ ((Load.text backwardText).run (.new "")).2.targetFps = 25
      ∧ ((Load.text backwardText).run (.new "")).2.images = none := by
  have hparse : Ini.parse backwardText = .ok ⟨[("window", "width", some "320"),
      ("window", "target_fps", some "25"), ("time", "time_scale", some "-2"),
      ("assets", "images", some "a.json")]⟩ := by
    rw [Ini.parse_eq]
    decide +kernel
  have hrun := Load.run_of_found (Load.found_of_parse hparse (.new ""))
  have hfails : ((Load.text backwardText).run (.new "")).1.isOk = false := by
    rw [hrun]
    decide +kernel
  cases hresult : ((Load.text backwardText).run (.new "")).1 with
  | ok u =>
      rw [hresult] at hfails
      cases hfails
  | error f =>
      refine ⟨f, rfl, failed_load_keeps_what_it_took hresult, ?_⟩
      rw [hrun]
      decide +kernel

/-- The settings of a width, with a frame rate of zero. -/
private def stillText : String := "[window]\nwidth = 320\ntarget_fps = 0\n"

/-- A frame rate of zero is refused when the width has been taken, so a run that says
that it goes on with defaults goes on with another width. -/
theorem failed_load_changes_width :
    ((Load.text stillText).run (.new "")).1.isOk = false
      ∧ ((Load.text stillText).run (.new "")).2.width = 320
      ∧ (new "" : Config Float).width = 800
      ∧ (CommandLine.configure {} fun _ => .ok stillText).1.width = 320
      ∧ ((CommandLine.configure {} fun _ => .ok stillText).2.toList.map Demo.Entry.text
        = ["Using default config: config error: target_fps must be at least 1"]) := by
  have hparse : Ini.parse stillText
      = .ok ⟨[("window", "width", some "320"), ("window", "target_fps", some "0")]⟩ := by
    rw [Ini.parse_eq]
    decide +kernel
  have htext := Load.run_of_found (Load.found_of_parse hparse (.new ""))
  have hfound : (Load.file fun _ => .ok stillText).found (new defaultPath) = .ok _ :=
    Load.found_of_read rfl hparse
  have hfile : (new defaultPath : Config Float).loadFile (fun _ => .ok stillText) = _ :=
    Load.run_of_found hfound
  rw [htext]
  refine ⟨by decide +kernel, by decide +kernel, rfl, ?_⟩
  unfold CommandLine.configure
  dsimp only [Option.getD]
  rw [hfile]
  decide +kernel

-- ========================================================= lists of loads

/-- The configuration after loads, one after the other, failed ones included. -/
def loadAll (c : Config Float) (loads : List Load) : Config Float :=
  loads.foldl (fun c load => (load.run c).2) c

/-- The frame rate that a load takes, before it is stored. -/
def Load.rate? (c : Config Float) (load : Load) : Option Nat :=
  match load.found c with
  | .ok ini => (ini.natural? "window" "target_fps").filter (· ≠ 0)
  | .error _ => none

namespace Load

theorem path_run (c : Config Float) (load : Load) : (load.run c).2.path = c.path := by
  have hending := load.ending c
  generalize load.run c = answer at hending
  cases hending <;> rfl

/-- A load stores the low 32 bits of the rate that it takes. -/
theorem targetFps_run (c : Config Float) (load : Load) :
    (load.run c).2.targetFps = UInt32.ofNat ((load.rate? c).getD c.targetFps.toNat) := by
  have hword : ∀ ini : Ini, ini.natural? "window" "target_fps" ≠ some 0 →
      word ini "window" "target_fps" c.targetFps
        = UInt32.ofNat (((ini.natural? "window" "target_fps").filter (· ≠ 0)).getD
            c.targetFps.toNat) := by
    intro ini hrate
    unfold word
    cases hn : ini.natural? "window" "target_fps" with
    | none => exact (UInt32.ofNat_toNat).symm
    | some n =>
        have hne : n ≠ 0 := fun h0 => hrate (hn.trans (congrArg some h0))
        simp [Option.filter, hne]
  have hending := load.ending c
  unfold rate?
  generalize load.run c = answer at hending
  cases hending with
  | unread hfound =>
      rw [hfound]
      exact UInt32.ofNat_toNat.symm
  | noFrameRate hfound hrate =>
      rw [hfound]
      dsimp only
      rw [hrate]
      exact UInt32.ofNat_toNat.symm
  | badTimeScale hfound hrate hscale hbad =>
      rw [hfound]
      exact hword _ hrate
  | loaded hfound hrate hscale =>
      rw [hfound]
      exact hword _ hrate

/-- No load stores a time scale at which time does not go forward. -/
theorem forward_run {c : Config Float} (h : Forward c.timeScale) (load : Load) :
    Forward (load.run c).2.timeScale := by
  have hending := load.ending c
  generalize load.run c = answer at hending
  cases hending with
  | unread hfound => exact h
  | noFrameRate hfound hrate => exact h
  | badTimeScale hfound hrate hscale hbad => exact h
  | @loaded ini hfound hrate hscale =>
      show Forward ((ini.float? "time" "time_scale").getD c.timeScale)
      cases hx : ini.float? "time" "time_scale" with
      | none => exact h
      | some x => exact hscale x hx

end Load

theorem path_loadAll (c : Config Float) (loads : List Load) :
    (c.loadAll loads).path = c.path :=
  List.foldlRecOn (motive := fun d : Config Float => d.path = c.path) loads _ rfl
    fun _ hb load _ => (load.path_run _).trans hb

theorem forward_loadAll {c : Config Float} (h : Forward c.timeScale) (loads : List Load) :
    Forward (c.loadAll loads).timeScale :=
  List.foldlRecOn (motive := fun d : Config Float => Forward d.timeScale) loads _ h
    fun _ hb load _ => load.forward_run hb

/-- The frame rates that loads take, in order. -/
def rates (c : Config Float) (loads : List Load) : List Nat := loads.filterMap (Load.rate? c)

theorem rates_concat_of_none {c : Config Float} {loads : List Load} {load : Load}
    (h : load.rate? c = none) : c.rates (loads ++ [load]) = c.rates loads := by
  unfold rates
  rw [List.filterMap_append, List.filterMap_cons_none h, List.filterMap_nil, List.append_nil]

theorem rates_concat_of_some {c : Config Float} {loads : List Load} {load : Load} {n : Nat}
    (h : load.rate? c = some n) : c.rates (loads ++ [load]) = c.rates loads ++ [n] := by
  unfold rates
  rw [List.filterMap_append, List.filterMap_cons_some h, List.filterMap_nil]

theorem targetFps_loadAll (c : Config Float) (loads : List Load) :
    (c.loadAll loads).targetFps
      = UInt32.ofNat ((c.rates loads).getLast?.getD c.targetFps.toNat) := by
  induction loads using List.reverseRecOn with
  | nil => exact UInt32.ofNat_toNat.symm
  | append_singleton loads load ih =>
      have hrate : load.rate? (c.loadAll loads) = load.rate? c := by
        unfold Load.rate?
        rw [Load.found_of_path (path_loadAll c loads) load]
      have hlast : c.loadAll (loads ++ [load]) = (load.run (c.loadAll loads)).2 :=
        List.foldl_append
      rw [hlast, Load.targetFps_run, hrate]
      cases hn : load.rate? c with
      | none =>
          rw [rates_concat_of_none hn, Option.getD_none, UInt32.ofNat_toNat]
          exact ih
      | some n =>
          rw [rates_concat_of_some hn, List.getLast?_concat, Option.getD_some, Option.getD_some]

/-- A rate that is taken is at least one, and it has 64 bits. -/
theorem bounds_of_mem_rates {c : Config Float} {loads : List Load} {n : Nat}
    (h : n ∈ c.rates loads) : 1 ≤ n ∧ n < 2 ^ 64 := by
  obtain ⟨load, -, hload⟩ := List.mem_filterMap.1 h
  unfold Load.rate? at hload
  split at hload
  · next ini hfound =>
    obtain ⟨hn, hpos⟩ := Option.filter_eq_some_iff.1 hload
    obtain ⟨value, -, hvalue⟩ := Option.bind_eq_some_iff.1 hn
    exact ⟨Nat.one_le_iff_ne_zero.2 (of_decide_eq_true hpos), lt_of_readBelow? hvalue⟩
  · cases hload

/-- Whatever is loaded, time goes forward, and the frame rate is what 32 bits hold of
the last rate that was taken. That rate is at least one, but what is stored of it is
so only if 2 ^ 32 does not divide it. -/
theorem loads_keep_scale_and_cut_rates {c : Config Float} (hrate : 1 ≤ c.targetFps)
    (hscale : Forward c.timeScale) (loads : List Load) :
    Forward (c.loadAll loads).timeScale
      ∧ (∀ n ∈ c.rates loads, 1 ≤ n ∧ n < 2 ^ 64)
      ∧ (c.loadAll loads).targetFps.toNat
          = (c.rates loads).getLast?.getD c.targetFps.toNat % 2 ^ 32
      ∧ (1 ≤ (c.loadAll loads).targetFps
          ↔ ∀ n, (c.rates loads).getLast? = some n → ¬2 ^ 32 ∣ n) := by
  have hstored : (c.loadAll loads).targetFps.toNat
      = (c.rates loads).getLast?.getD c.targetFps.toNat % 2 ^ 32 := by
    rw [targetFps_loadAll, UInt32.toNat_ofNat']
  refine ⟨forward_loadAll hscale loads, fun n => bounds_of_mem_rates, hstored, ?_⟩
  rw [UInt32.le_iff_toNat_le, hstored]
  cases (c.rates loads).getLast? with
  | none =>
      rw [Option.getD_none, Nat.mod_eq_of_lt c.targetFps.toNat_lt]
      exact iff_of_true (UInt32.le_iff_toNat_le.1 hrate) fun n hn => nomatch hn
  | some n =>
      rw [Option.getD_some]
      constructor
      · rintro hpos n' ⟨⟩ hdivides
        rw [Nat.mod_eq_zero_of_dvd hdivides] at hpos
        exact absurd hpos (by decide)
      · intro hkept
        exact Nat.one_le_iff_ne_zero.2 fun hzero => hkept n rfl (Nat.dvd_of_mod_eq_zero hzero)

/-- Settings with a frame rate just above 32 bits, and a time scale below zero. -/
private def longRateText : String :=
  "[window]\ntarget_fps=4294967297\n[time]\ntime_scale=-1\n"

/-- The long rate is cut to one, though its load fails, and a file that cannot be read
leaves it so. -/
theorem long_rate_is_cut :
    let loads : List Load := [.text longRateText, .file fun _ => .error .notFound]
    (new "" : Config Float).rates loads = [4294967297]
      ∧ Forward ((new "" : Config Float).loadAll loads).timeScale
      ∧ 1 ≤ ((new "" : Config Float).loadAll loads).targetFps
      ∧ ((new "" : Config Float).loadAll loads).targetFps.toNat = 1 := by
  intro loads
  have hparse : Ini.parse longRateText
      = .ok ⟨[("window", "target_fps", some "4294967297"), ("time", "time_scale", some "-1")]⟩ := by
    rw [Ini.parse_eq]
    decide +kernel
  have hrates : (new "" : Config Float).rates loads = [4294967297] := by
    have htext : (Load.text longRateText).rate? (new "") = some 4294967297 := by
      unfold Load.rate?
      rw [Load.found_of_parse hparse]
      decide +kernel
    exact (List.filterMap_cons_some htext).trans rfl
  have hkeeps := loads_keep_scale_and_cut_rates (c := new "") (by decide +kernel)
    (by decide +kernel) loads
  rw [hrates] at hkeeps
  obtain ⟨hscale, -, hstored, hpos⟩ := hkeeps
  refine ⟨hrates, hscale, hpos.2 ?_, hstored⟩
  rintro n ⟨⟩
  decide

/-- Settings with a frame rate of 2 ^ 32. -/
private def longestSecondText : String := "[window]\ntarget_fps = 4294967296\n"

/-- A rate of 2 ^ 32 is no rate of zero when it is looked at, and zero when it is stored. -/
theorem loaded_rate_may_be_zero :
    1 ≤ (new "" : Config Float).targetFps
      ∧ Forward (new "" : Config Float).timeScale
      ∧ ((Load.text longestSecondText).run (.new "")).1.isOk = true
      ∧ ((new "" : Config Float).loadAll [.text longestSecondText]).targetFps = 0 := by
  have hparse : Ini.parse longestSecondText
      = .ok ⟨[("window", "target_fps", some "4294967296")]⟩ := by
    rw [Ini.parse_eq]
    decide +kernel
  have hrun := Load.run_of_found (Load.found_of_parse hparse (.new ""))
  refine ⟨by decide +kernel, by decide +kernel, ?_, ?_⟩
  · rw [hrun]
    decide +kernel
  · show ((Load.text longestSecondText).run (.new "")).2.targetFps = 0
    rw [hrun]
    decide +kernel

end Config

end Stagecraft
