/-
Surfaces: pixels of four bytes, row after row from the top left corner.

The buffer has exactly four bytes per pixel, which is part of the type. So a
position inside of the surface has an index with four bytes behind it
(`index_le`), and reading and writing rest on nothing else. Reading outside gives
transparent black and writing outside does nothing, so neighbours can be probed
without a bounds check. A color that is too short is filled up with zeros, and
one that is too long is cut.
-/
import Stagecraft.Fault

namespace Stagecraft

structure Surface where
  width : UInt32
  height : UInt32
  data : Array UInt8
  size_data : data.size = width.toNat * height.toNat * 4

namespace Surface

/-- The four bytes of a color. -/
abbrev Color := Vector UInt8 4

def transparent : Color := #v[0, 0, 0, 0]

/-- The first four bytes, filled up with zeros. -/
def Color.ofList (bytes : List UInt8) : Color :=
  Vector.ofFn fun i => bytes[i.val]?.getD 0

/-- The transparent surface of a size. -/
def new (width height : UInt32) : Surface :=
  ⟨width, height, Array.replicate (width.toNat * height.toNat * 4) 0, by simp⟩

/-- The surface of given bytes, which have to fit its size. -/
def ofData {α : Type} (width height : UInt32) (data : Array UInt8) : Except (Fault α) Surface :=
  if h : data.size = width.toNat * height.toNat * 4 then .ok ⟨width, height, data, h⟩
  else .error (.invalidBuffer data.size width.toNat height.toNat)

/-- The index of the first byte of a pixel inside the surface. -/
def index? (s : Surface) (x y : Int) : Option Nat :=
  if 0 ≤ x ∧ 0 ≤ y ∧ x < s.width.toNat ∧ y < s.height.toNat then
    some ((x.toNat + y.toNat * s.width.toNat) * 4)
  else none

/-- The buffer has all four bytes of a pixel that has an index. -/
theorem index_le (s : Surface) {x y : Int} {i : Nat} (h : s.index? x y = some i) :
    i + 4 ≤ s.data.size := by
  unfold index? at h
  split at h
  · next hwithin =>
    obtain ⟨hx, hy, hxw, hyh⟩ := hwithin
    have hrows : (y.toNat + 1) * s.width.toNat ≤ s.height.toNat * s.width.toNat :=
      Nat.mul_le_mul_right _ (by omega)
    rw [Nat.add_one_mul, Nat.mul_comm s.height.toNat] at hrows
    obtain rfl := Option.some.inj h
    rw [s.size_data]
    omega
  · cases h

/-- The four bytes from an index on. -/
def slice (data : Array UInt8) (i : Nat) (h : i + 4 ≤ data.size) : Color :=
  Vector.ofFn fun k => data[i + k.val]

def get (s : Surface) (x y : Int) : Color :=
  match h : s.index? x y with
  | some i => slice s.data i (s.index_le h)
  | none => transparent

/-- Writes the four bytes of a pen from an index on. -/
def write (data : Array UInt8) (i : Nat) (pen : Color) (h : i + 4 ≤ data.size) : Array UInt8 :=
  (((data.set i pen[0]).set (i + 1) pen[1] (by rw [Array.size_set]; omega)).set (i + 2) pen[2]
    (by rw [Array.size_set, Array.size_set]; omega)).set (i + 3) pen[3]
    (by rw [Array.size_set, Array.size_set, Array.size_set]; omega)

theorem size_write (data : Array UInt8) (i : Nat) (pen : Color) (h : i + 4 ≤ data.size) :
    (write data i pen h).size = data.size := by
  unfold write
  rw [Array.size_set, Array.size_set, Array.size_set, Array.size_set]

def set (s : Surface) (x y : Int) (color : List UInt8) : Surface :=
  match h : s.index? x y with
  | some i => { s with
      data := write s.data i (Color.ofList color) (s.index_le h)
      size_data := by rw [size_write]; exact s.size_data }
  | none => s

/-- The surface with every pixel of one color. -/
def fill (s : Surface) (color : List UInt8) : Surface :=
  let c := Color.ofList color
  { s with
    data := Array.ofFn (n := s.data.size) fun i => c.get ⟨i.val % 4, Nat.mod_lt _ (by decide)⟩
    size_data := by simpa using s.size_data }

/-- Whether the colors agree in the components that both have, at least one. -/
def sameColor (a b : List UInt8) : Bool :=
  let n := min a.length b.length
  decide (0 < n) && a.take n == b.take n

end Surface

end Stagecraft
