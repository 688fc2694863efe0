/-
Parts: what the name of an attribute can stand for.

A part is a number or a pair of numbers inside of something, and it is a
lens: what is written is read back, writing what was read changes nothing,
and the last write counts. The laws are fields, so a part without them
cannot be had. A part reads as a value and takes values of its own shape
only, which is how attributes behave (`Part.read`, `Part.write`).
-/
import Mathlib.Data.List.Basic
import Stagecraft.Attribute

namespace Stagecraft

-- ================================================================ lenses

/-- A part of `β` that can be read and replaced. -/
structure Lens (β γ : Type) where
  get : β → γ
  set : β → γ → β
  get_set (b : β) (v : γ) : get (set b v) = v
  set_get (b : β) : set b (get b) = b
  set_set (b : β) (v w : γ) : set (set b v) w = set b w

/-- A part that attributes can stand for: a number, or a pair of numbers. -/
inductive Part (β K : Type) where
  | scalar (l : Lens β K)
  | pair (l : Lens β (K × K))

namespace Part

variable {β K : Type}

/-- The value of a part. -/
def read (b : β) : Part β K → AttrValue K
  | scalar l => .scalar (l.get b)
  | pair l => .pair (l.get b)

/-- Gives a part a value. One of another shape is not taken. -/
def write (b : β) (p : Part β K) (v : AttrValue K) : β :=
  match p, v with
  | scalar l, .scalar x => l.set b x
  | pair l, .array [x, y] => l.set b (x, y)
  | _, _ => b

-- ================================================================== laws

variable {p : Part β K} {b : β} {v : AttrValue K}

/-- A value of the shape of a part is a number for a number and a pair for a pair. -/
private theorem shape_cases (h : (p.read b).sameShape v = true) :
    (∃ l x, p = scalar l ∧ v = .scalar x) ∨ ∃ l x, p = pair l ∧ v = .pair x := by
  cases p with
  | scalar l =>
      cases v with
      | scalar x => exact .inl ⟨l, x, rfl, rfl⟩
      | array xs => cases h
  | pair l =>
      cases v with
      | scalar x => cases h
      | array xs =>
          have hlength : 2 = xs.length := by
            simpa [read, AttrValue.pair, AttrValue.sameShape] using h
          obtain ⟨x, y, rfl⟩ := List.length_eq_two.1 hlength.symm
          exact .inr ⟨l, (x, y), rfl, rfl⟩

theorem read_write (h : (p.read b).sameShape v = true) : p.read (p.write b v) = v := by
  obtain ⟨l, x, rfl, rfl⟩ | ⟨l, x, rfl, rfl⟩ := shape_cases h
  · exact congrArg AttrValue.scalar (l.get_set b x)
  · exact congrArg AttrValue.pair (l.get_set b x)

theorem write_read (p : Part β K) (b : β) : p.write b (p.read b) = b := by
  cases p with
  | scalar l => exact l.set_get b
  | pair l => exact l.set_get b

/-- The last value that a part takes counts, whatever was offered before. -/
theorem write_write (h : (p.read b).sameShape v = true) (before : AttrValue K) :
    p.write (p.write b before) v = p.write b v := by
  obtain ⟨l, x, rfl, rfl⟩ | ⟨l, x, rfl, rfl⟩ := shape_cases h
  · cases before with
    | scalar y => exact l.set_set b y x
    | array ys => rfl
  · match before with
    | .array [y, z] => exact l.set_set b (y, z) x
    | .scalar _ | .array [] | .array [_] | .array (_ :: _ :: _ :: _) => rfl

theorem write_of_other_shape (h : (p.read b).sameShape v = false) : p.write b v = b := by
  cases p with
  | scalar l =>
      cases v with
      | scalar x => cases h
      | array xs => rfl
  | pair l =>
      match v, h with
      | .array [x, y], h => cases h
      | .scalar _, _ | .array [], _ | .array [_], _ | .array (_ :: _ :: _ :: _), _ => rfl

/-- No part takes a list that is not a pair. -/
theorem write_array {xs : List K} (h : ∀ x y, xs = [x, y] → False) (p : Part β K) (b : β) :
    p.write b (.array xs) = b := by
  cases p with
  | scalar l => rfl
  | pair l =>
      match xs, h with
      | [x, y], h => exact (h x y rfl).elim
      | [], _ | [_], _ | _ :: _ :: _ :: _, _ => rfl

end Part

end Stagecraft
