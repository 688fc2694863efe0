/-
A surface is a picture.

A picture gives every position of the plane a color (`Picture`), and painting
it is simple: one position gets another color, or all inside of the bounds do
(`Paint.onto`). A surface keeps its picture as bytes. The pixel of a position
has four of them for itself, since no two positions inside of the bounds have
the same place in the order of the rows (`place_injective`). So writing one pixel
changes the picture at one position (`get_set`), and whatever is painted, the
surface shows the picture that was painted (`run_spec`).

# Words

The buffer is reached by arithmetic in machine words and by slices that have
to lie within it. Where the size of the buffer fits a word, each step to an index
and to the end of its slice does, and the end is not past that of the buffer
(`addressed_of_index`). This is said of the index that reading and writing use,
so it holds of each access to the buffer of any surface.
-/
import Mathlib.Tactic.Ring
import Stagecraft.Surface

namespace Stagecraft

namespace Surface

-- ================================================================= colors

/-- The color of some bytes: cut after four, or filled up with zeros. -/
def Color.cut (bytes : List UInt8) : Color := ⟨((bytes ++ [0, 0, 0, 0]).take 4).toArray, by simp⟩

theorem Color.ofList_eq (bytes : List UInt8) : Color.ofList bytes = Color.cut bytes := by
  have hfour : (Color.ofList bytes).toList
      = [bytes[0]?.getD 0, bytes[1]?.getD 0, bytes[2]?.getD 0, bytes[3]?.getD 0] := by
    simp [Color.ofList, Vector.toList_ofFn, List.ofFn_succ]
  refine Vector.toList_inj.1 (hfour.trans ?_)
  match bytes with
  | [] | [_] | [_, _] | [_, _, _] | _ :: _ :: _ :: _ :: _ => rfl

-- ================================================================= places

/-- Whether a position is inside of the bounds. -/
def Within (width height : UInt32) (x y : Int) : Prop :=
  0 ≤ x ∧ 0 ≤ y ∧ x < width.toNat ∧ y < height.toNat

instance (width height : UInt32) (x y : Int) : Decidable (Within width height x y) :=
  inferInstanceAs (Decidable (_ ∧ _))

/-- The number of pixels before the one of a position, row after row. -/
def place (width : UInt32) (x y : Int) : Nat := x.toNat + y.toNat * width.toNat

section Places

variable {width height : UInt32} {x y x' y' : Int}

theorem place_injective (h : Within width height x y) (h' : Within width height x' y')
    (hplace : place width x y = place width x' y') : x = x' ∧ y = y' := by
  obtain ⟨hx, hy, hxw, -⟩ := h
  obtain ⟨hx', hy', hxw', -⟩ := h'
  -- the column is what the width leaves over, and the row follows from it
  have hcolumn : x.toNat = x'.toNat := by
    have hmod := congrArg (· % width.toNat) hplace
    simpa only [place, Nat.add_mul_mod_self_right,
      Nat.mod_eq_of_lt (show x.toNat < width.toNat by omega),
      Nat.mod_eq_of_lt (show x'.toNat < width.toNat by omega)] using hmod
  have hrow : y.toNat = y'.toNat := by
    have hwide : 0 < width.toNat := by omega
    unfold place at hplace
    rw [hcolumn, Nat.add_left_cancel_iff] at hplace
    exact Nat.eq_of_mul_eq_mul_right hwide hplace
  omega

end Places

-- ================================================================= pixels

/-- The four bytes of a place. -/
def pixel (data : Array UInt8) (place : Nat) : Color :=
  Vector.ofFn fun k => data[place * 4 + k.val]?.getD 0

theorem getElem_pixel (data : Array UInt8) (p : Nat) {k : Nat} (hk : k < 4) :
    (pixel data p)[k] = (data[p * 4 + k]?).getD 0 :=
  Vector.getElem_ofFn _

theorem slice_eq {data : Array UInt8} {p : Nat} (h : p * 4 + 4 ≤ data.size) :
    slice data (p * 4) h = pixel data p := by
  refine Vector.ext fun k hk => ?_
  rw [getElem_pixel data p hk, Array.getElem?_eq_getElem (by omega), Option.getD_some]
  exact Vector.getElem_ofFn _

theorem getElem?_write {data : Array UInt8} {i : Nat} (hi : i + 4 ≤ data.size) (pen : Color)
    {k : Nat} (hk : k < 4) : (write data i pen hi)[i + k]? = some pen[k] := by
  have hfirst : i < data.size := by omega
  have hlater : ∀ j < 4, i + j < data.size := by omega
  unfold write
  match k, hk with
  | 0, _ | 1, _ | 2, _ | 3, _ => simp [hfirst, hlater]

theorem getElem?_write_of_outside {data : Array UInt8} {i j : Nat} (hi : i + 4 ≤ data.size)
    (pen : Color) (h : j < i ∨ i + 4 ≤ j) : (write data i pen hi)[j]? = data[j]? := by
  unfold write
  simp only [Array.getElem?_set]
  rw [if_neg, if_neg, if_neg, if_neg] <;> omega

/-- Writing the pixel of one place leaves all others as they are. -/
theorem pixel_write {data : Array UInt8} {p : Nat} (hp : p * 4 + 4 ≤ data.size) (pen : Color)
    (q : Nat) : pixel (write data (p * 4) pen hp) q = if q = p then pen else pixel data q := by
  refine Vector.ext fun k hk => ?_
  rw [getElem_pixel]
  by_cases hq : q = p
  · rw [hq, getElem?_write hp pen hk, if_pos rfl]
    rfl
  · rw [if_neg hq, getElem_pixel, getElem?_write_of_outside hp pen (by omega)]

theorem pixel_replicate (n p : Nat) : pixel (Array.replicate n 0) p = transparent := by
  refine Vector.ext fun k hk => ?_
  have hzero : (Array.replicate n (0 : UInt8))[p * 4 + k]?.getD 0 = 0 := by
    rw [Array.getElem?_replicate]
    split_ifs <;> rfl
  rw [getElem_pixel, hzero]
  match k, hk with
  | 0, _ | 1, _ | 2, _ | 3, _ => rfl

-- =============================================================== surfaces

variable (s : Surface) {x y : Int}

theorem index?_eq (x y : Int) :
    s.index? x y
      = if Within s.width s.height x y then some (place s.width x y * 4) else none :=
  rfl

theorem index?_of_within (h : Within s.width s.height x y) :
    s.index? x y = some (place s.width x y * 4) :=
  if_pos h

/-- The pixel of a position inside of the bounds is within the buffer. -/
theorem bytes_le (h : Within s.width s.height x y) :
    place s.width x y * 4 + 4 ≤ s.data.size :=
  s.index_le (s.index?_of_within h)

theorem get_of_within (h : Within s.width s.height x y) :
    s.get x y = pixel s.data (place s.width x y) := by
  have hindex := s.index?_of_within h
  unfold get
  split
  · next i hi =>
    obtain rfl := Option.some.inj (hi.symm.trans hindex)
    exact slice_eq (s.bytes_le h)
  · next hi => cases hi.symm.trans hindex

theorem get_of_not_within (h : ¬Within s.width s.height x y) : s.get x y = transparent := by
  have hindex : s.index? x y = none := if_neg h
  unfold get
  split
  · next i hi => cases hi.symm.trans hindex
  · rfl

/-- The surface with another pixel at a place. -/
def withPixel (p : Nat) (pen : Color) (hp : p * 4 + 4 ≤ s.data.size) : Surface :=
  { s with
    data := write s.data (p * 4) pen hp
    size_data := by rw [size_write]; exact s.size_data }

theorem withPixel_width {p : Nat} (pen : Color) (hp : p * 4 + 4 ≤ s.data.size) :
    (s.withPixel p pen hp).width = s.width := rfl

theorem withPixel_height {p : Nat} (pen : Color) (hp : p * 4 + 4 ≤ s.data.size) :
    (s.withPixel p pen hp).height = s.height := rfl

theorem withPixel_data {p : Nat} (pen : Color) (hp : p * 4 + 4 ≤ s.data.size) :
    (s.withPixel p pen hp).data = write s.data (p * 4) pen hp := rfl

theorem set_of_within (h : Within s.width s.height x y) (color : List UInt8) :
    s.set x y color = s.withPixel (place s.width x y) (Color.cut color) (s.bytes_le h) := by
  have hindex := s.index?_of_within h
  unfold set
  split
  · next i hi =>
    obtain rfl := Option.some.inj (hi.symm.trans hindex)
    simp only [Color.ofList_eq]
    rfl
  · next hi => cases hi.symm.trans hindex

theorem set_of_not_within (h : ¬Within s.width s.height x y) (color : List UInt8) :
    s.set x y color = s := by
  have hindex : s.index? x y = none := if_neg h
  unfold set
  split
  · next i hi => cases hi.symm.trans hindex
  · rfl

theorem pixel_fill {p : Nat} (hp : p * 4 + 4 ≤ s.data.size) (color : List UInt8) :
    pixel (s.fill color).data p = Color.cut color := by
  refine Vector.ext fun k hk => ?_
  have hturn : (p * 4 + k) % 4 = k := by omega
  have hbyte : (s.fill color).data[p * 4 + k]? = some (Color.ofList color)[k] := by
    unfold fill
    dsimp only
    rw [Array.getElem?_ofFn, dif_pos (by omega)]
    show some (Color.ofList color)[(p * 4 + k) % 4] = _
    simp only [hturn]
  rw [getElem_pixel, hbyte, Color.ofList_eq]
  rfl

-- =============================================================== pictures

/-- A color for every position. -/
abbrev Picture := Int → Int → Color

/-- What is done to a surface. -/
inductive Paint where
  | set (x y : Int) (color : List UInt8)
  | fill (color : List UInt8)

/-- The picture after painting inside of the bounds. -/
def Paint.onto (width height : UInt32) (picture : Picture) : Paint → Picture
  | set x y color => fun x' y' =>
    if Within width height x y ∧ x' = x ∧ y' = y then Color.cut color else picture x' y'
  | fill color => fun x y => if Within width height x y then Color.cut color else picture x y

/-- The surface after painting. -/
def Paint.apply (s : Surface) : Paint → Surface
  | set x y color => s.set x y color
  | fill color => s.fill color

/-- The surface after painting again and again. -/
def run (s : Surface) (paints : List Paint) : Surface := paints.foldl Paint.apply s

theorem bounds_set (x y : Int) (color : List UInt8) :
    (s.set x y color).width = s.width ∧ (s.set x y color).height = s.height := by
  by_cases h : Within s.width s.height x y
  · rw [set_of_within s h]
    exact ⟨withPixel_width .., withPixel_height ..⟩
  · rw [set_of_not_within s h]
    exact ⟨rfl, rfl⟩

theorem bounds_apply (p : Paint) : (p.apply s).width = s.width ∧ (p.apply s).height = s.height := by
  cases p with
  | set x y color => exact bounds_set s x y color
  | fill color => exact ⟨rfl, rfl⟩

theorem get_withPixel {p : Nat} (pen : Color) (hp : p * 4 + 4 ≤ s.data.size) (x y : Int) :
    (s.withPixel p pen hp).get x y
      = if Within s.width s.height x y ∧ place s.width x y = p then pen else s.get x y := by
  by_cases h : Within s.width s.height x y
  · have hwritten : (s.withPixel p pen hp).get x y
        = pixel (write s.data (p * 4) pen hp) (place s.width x y) := by
      rw [get_of_within _ (by rwa [withPixel_width, withPixel_height]), withPixel_data,
        withPixel_width]
    rw [hwritten, pixel_write hp, get_of_within s h]
    simp only [h, true_and]
  · rw [get_of_not_within _ (by rwa [withPixel_width, withPixel_height]),
      if_neg fun hhere => h hhere.1, get_of_not_within s h]

theorem get_set (x y : Int) (color : List UInt8) :
    (s.set x y color).get = (Paint.set x y color).onto s.width s.height s.get := by
  funext x' y'
  show _ = if Within s.width s.height x y ∧ x' = x ∧ y' = y then _ else _
  by_cases h : Within s.width s.height x y
  case neg => rw [set_of_not_within s h, if_neg fun hhere => h hhere.1]
  rw [set_of_within s h, get_withPixel]
  have hsame : (Within s.width s.height x' y' ∧ place s.width x' y' = place s.width x y)
      ↔ (Within s.width s.height x y ∧ x' = x ∧ y' = y) := by
    constructor
    · exact fun hplace => ⟨h, place_injective hplace.1 h hplace.2⟩
    · rintro ⟨-, rfl, rfl⟩
      exact ⟨h, rfl⟩
  simp only [hsame]

theorem get_fill (color : List UInt8) :
    (s.fill color).get = (Paint.fill color).onto s.width s.height s.get := by
  funext x y
  show _ = if Within s.width s.height x y then _ else _
  by_cases h : Within s.width s.height x y
  case neg =>
      rw [if_neg h, get_of_not_within s h]
      exact get_of_not_within (s.fill color) h
  rw [if_pos h]
  exact (get_of_within (s.fill color) h).trans (pixel_fill s (bytes_le s h) color)

/-- What is done to a surface is done to its picture. -/
theorem get_apply (p : Paint) : (p.apply s).get = p.onto s.width s.height s.get := by
  cases p with
  | set x y color => exact get_set s x y color
  | fill color => exact get_fill s color

/-- The surface shows the picture that was painted. -/
theorem run_spec (paints : List Paint) :
    (s.run paints).width = s.width ∧ (s.run paints).height = s.height
      ∧ (s.run paints).get
          = paints.foldl (fun picture p => p.onto s.width s.height picture) s.get := by
  induction paints generalizing s with
  | nil => exact ⟨rfl, rfl, rfl⟩
  | cons p rest ih =>
      obtain ⟨hwidth, hheight⟩ := bounds_apply s p
      obtain ⟨hw, hh, hget⟩ := ih (p.apply s)
      rw [hwidth, hheight, get_apply] at hget
      exact ⟨hw.trans hwidth, hh.trans hheight, hget⟩

-- ================================================================== words

/-- A number that a machine word has room for. -/
def word? (n : Nat) : Option Nat := if n < 2 ^ 64 then some n else none

/-- The number of bytes of a surface, every step of it in words. -/
def byteSize? (width height : UInt32) : Option Nat := do
  let pixels ← word? (width.toNat * height.toNat)
  word? (pixels * 4)

/-- The start of the slice of a position, and its end, every step to them in words. -/
def sliceInWords? (s : Surface) (x y : Int) : Option (Nat × Nat) := do
  let before ← word? (y.toNat * s.width.toNat)
  let place ← word? (x.toNat + before)
  let start ← word? (place * 4)
  let stop ← word? (start + 4)
  some (start, stop)

/-- What it means that the four bytes from an index on are those of a position. -/
structure Addressed (s : Surface) (x y : Int) (i : Nat) : Prop where
  within : Within s.width s.height x y
  inside : i + 4 ≤ s.data.size
  words : s.sliceInWords? x y = some (i, i + 4)
  /-- The bytes are those of the color, in order. -/
  bytes {k : Nat} (hk : k < 4) : s.data[i + k]? = some (s.get x y)[k]

section Words

variable {s : Surface} {width height : UInt32}

theorem word?_eq {n : Nat} (h : n < 2 ^ 64) : word? n = some n := if_pos h

theorem byteSize?_eq (hfits : width.toNat * height.toNat * 4 < 2 ^ 64) :
    byteSize? width height = some (width.toNat * height.toNat * 4) := by
  unfold byteSize?
  rw [word?_eq (by omega)]
  exact word?_eq hfits

/-- No step to a slice is greater than its end. -/
theorem sliceInWords?_eq {x y : Int} (hend : place s.width x y * 4 + 4 < 2 ^ 64) :
    s.sliceInWords? x y = some (place s.width x y * 4, place s.width x y * 4 + 4) := by
  have hbefore : y.toNat * s.width.toNat ≤ place s.width x y := Nat.le_add_left _ _
  unfold sliceInWords?
  rw [word?_eq (by omega)]
  show (word? (place s.width x y) >>= fun p => word? (p * 4) >>= fun start =>
    word? (start + 4) >>= fun stop => some (start, stop)) = _
  rw [word?_eq (by omega), Option.bind_eq_bind, Option.bind_some, word?_eq (by omega),
    Option.bind_some, word?_eq hend]
  rfl

/-- Whatever has an index is addressed by it. -/
theorem addressed_of_index (hfits : s.width.toNat * s.height.toNat * 4 < 2 ^ 64) {x y : Int}
    {i : Nat} (hi : s.index? x y = some i) : Addressed s x y i := by
  have hinside := s.index_le hi
  rw [index?_eq] at hi
  split_ifs at hi with h
  obtain rfl := Option.some.inj hi
  refine ⟨h, hinside, sliceInWords?_eq ?_, fun {k} hk => ?_⟩
  · rw [s.size_data] at hinside
    omega
  · rw [get_of_within s h, getElem_pixel _ _ hk, Array.getElem?_eq_getElem (by omega),
      Option.getD_some]

end Words

-- ================================================================= result

/-- What it means that a surface was painted to become another one. -/
structure Painted (s : Surface) (paints : List Paint) (t : Surface) : Prop where
  bounds : t.width = s.width ∧ t.height = s.height
  size : t.data.size = s.width.toNat * s.height.toNat * 4
  picture : t.get = paints.foldl (fun picture p => p.onto s.width s.height picture) s.get
  outside {x y : Int} (h : ¬Within s.width s.height x y) :
    t.index? x y = none ∧ t.get x y = transparent
  /-- Whatever is reached on the way, and at the end, is in the buffer. -/
  addressed {before : List Paint} (h : before <+: paints) {x y : Int} {i : Nat}
    (hi : (s.run before).index? x y = some i) : Addressed (s.run before) x y i
  /-- The bytes are those of the picture, row after row. -/
  bytes {x y : Int} (h : Within s.width s.height x y) {k : Nat} (hk : k < 4) :
    t.data[place s.width x y * 4 + k]? = some (t.get x y)[k]

/-- What it means that surfaces of a size are pictures. -/
structure ShowPictures (α : Type) (width height : UInt32) : Prop where
  /-- The size is a word. -/
  size : byteSize? width height = some (width.toNat * height.toNat * 4)
  blank : (new width height).width = width ∧ (new width height).height = height
    ∧ (new width height).get = fun _ _ => transparent
  /-- Bytes are taken as they are, if their number is the size. -/
  taken (data : Array UInt8) (s : Surface) :
    (ofData width height data : Except (Fault α) Surface) = .ok s
      ↔ data.size = width.toNat * height.toNat * 4
        ∧ s.width = width ∧ s.height = height ∧ s.data = data
  not_taken (data : Array UInt8) (h : data.size ≠ width.toNat * height.toNat * 4) :
    (ofData width height data : Except (Fault α) Surface)
      = .error (.invalidBuffer data.size width.toNat height.toNat)
  painted (s : Surface) (hwidth : s.width = width) (hheight : s.height = height)
    (paints : List Paint) : Painted s paints (s.run paints)

/-- **Surfaces refine pictures**: a surface shows what is painted, whatever that is, and
no access to its bytes is outside of them. -/
theorem surfaces_show_pictures (α : Type) {width height : UInt32}
    (hfits : width.toNat * height.toNat * 4 < 2 ^ 64) : ShowPictures α width height := by
  constructor
  case size => exact byteSize?_eq hfits
  case blank =>
      refine ⟨rfl, rfl, ?_⟩
      funext x y
      by_cases h : Within width height x y
      · exact (get_of_within (new width height) h).trans (pixel_replicate _ _)
      · exact get_of_not_within (new width height) h
  case taken =>
      intro data s
      unfold ofData
      constructor
      · intro h
        split_ifs at h with hsize
        cases h
        exact ⟨hsize, rfl, rfl, rfl⟩
      · rintro ⟨hsize, rfl, rfl, rfl⟩
        rw [dif_pos hsize]
  case not_taken => exact fun data h => dif_neg h
  case painted =>
      rintro s rfl rfl paints
      have haddressed (before : List Paint) {x y : Int} {i : Nat}
          (hi : (s.run before).index? x y = some i) : Addressed (s.run before) x y i := by
        obtain ⟨hwidth, hheight, -⟩ := run_spec s before
        exact addressed_of_index (by rwa [hwidth, hheight]) hi
      obtain ⟨hwidth, hheight, hpicture⟩ := run_spec s paints
      constructor
      case bounds => exact ⟨hwidth, hheight⟩
      case size => rw [(s.run paints).size_data, hwidth, hheight]
      case picture => exact hpicture
      case outside =>
          intro x y h
          rw [← hwidth, ← hheight] at h
          exact ⟨if_neg h, get_of_not_within _ h⟩
      case addressed => exact fun {before} _ => haddressed before
      case bytes =>
          intro x y h k hk
          rw [← hwidth, ← hheight] at h
          rw [← hwidth]
          exact (haddressed paints (index?_of_within _ h)).bytes hk

/-- A color for all of three by two pixels, then a longer one for a pixel inside of the
bounds and shorter ones for two outside of them. -/
def sampler : List Paint :=
  [.fill [9], .set 1 1 [10, 20, 30, 40, 50], .set (-1) 0 [1], .set 3 0 [7, 7]]

/-- The last pixel of the sampler ends with the buffer. -/
theorem sampler_painted :
    (3 : UInt32).toNat * (2 : UInt32).toNat * 4 < 2 ^ 64
      ∧ ((new 3 2).run sampler).get 1 1 = #v[10, 20, 30, 40]
      ∧ ((new 3 2).run sampler).get 0 1 = #v[9, 0, 0, 0]
      ∧ ((new 3 2).run sampler).get 3 0 = #v[0, 0, 0, 0]
      ∧ ((new 3 2).run sampler).index? 2 1 = some 20
      ∧ Addressed ((new 3 2).run sampler) 2 1 20
      ∧ ((new 3 2).run sampler).data.size = 24 := by
  have hfits : (3 : UInt32).toNat * (2 : UInt32).toNat * 4 < 2 ^ 64 := by decide
  obtain ⟨hbounds, hsize, hpicture, -, haddressed, -⟩ :=
    (surfaces_show_pictures Unit hfits).painted (new 3 2) rfl rfl sampler
  have hindex : ((new 3 2).run sampler).index? 2 1 = some 20 := by
    rw [index?_eq, hbounds.1, hbounds.2]
    decide
  refine ⟨hfits, ?_, ?_, ?_, hindex, haddressed (List.prefix_refl _) hindex, hsize⟩
  all_goals
    rw [hpicture]
    rfl

end Surface

end Stagecraft
