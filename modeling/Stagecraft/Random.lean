/-
A seeded generator of random numbers.

The state is a 64-bit word that grows by a fixed odd step, so it runs through
all words before one comes back. A draw multiplies the state by a scrambled
copy of itself and folds the 128-bit product into one word. Draws that would
make some results likelier than others are refused and repeated; since the
state has the period 2 ^ 64, more repetitions than that would find nothing new.
-/
import Stagecraft.Binary64

namespace Stagecraft

/-- The state of a generator. -/
structure Random where
  state : UInt64
  deriving DecidableEq, Repr

namespace Random

variable {β : Type}

def step : UInt64 := 0x2d358dccaa6c78a5

def scramble : UInt64 := 0x8bb84b93962eacc9

/-- The next word. -/
def next (g : Random) : UInt64 × Random :=
  let s := g.state + step
  let product := s.toNat * (s ^^^ scramble).toNat
  (UInt64.ofNat (product % UInt64.size) ^^^ UInt64.ofNat (product / UInt64.size), ⟨s⟩)

/-- Draws words until one is accepted, at most as often as the first number says. -/
def drawUntil (accept : UInt64 → Option β) (fallback : β) : Nat → Random → β × Random
  | 0, g => (fallback, g)
  | n + 1, g =>
    let (word, g) := g.next
    match accept word with
    | some b => (b, g)
    | none => drawUntil accept fallback n g

def period : Nat := UInt64.size

/-- A whole number below `n`: the high half of the product of a word and `n`.
Words whose low half falls under (2 ^ 64 - n) mod n are refused, which leaves
equally many for every result. -/
def below (g : Random) (n : Nat) : Nat × Random :=
  drawUntil
    (fun word =>
      let product := word.toNat * n
      if product % UInt64.size < (UInt64.size - n) % n then none
      else some (product / UInt64.size))
    0 period g

/-- A double from 0 to 1, the latter excluded, of the high 63 bits of a word. -/
def unit (g : Random) : Float × Random :=
  drawUntil
    (fun word =>
      let x := (word >>> 1).toFloat / 9223372036854775808.0
      if x < 1.0 then some x else none)
    0.0 period g

/-- A double between the bounds. -/
def range (g : Random) (lo hi : Float) : Float × Random :=
  let (x, g) := g.unit
  (x * (hi - lo) + lo, g)

/-- A whole number from the least one not below `lo` up to the greatest one not
above `hi`, the latter excluded. Without such a number the answer is the
first bound, and nothing is drawn. -/
def whole (g : Random) (lo hi : Float) : Int × Random :=
  let least := Binary64.ceilWord lo
  let bound := Binary64.floorWord hi
  if bound ≤ least then (least, g)
  else
    let (n, g) := g.below (bound - least).toNat
    (least + n, g)

/-- One of the items, or none when there are none. -/
def choice (g : Random) (items : List β) : Option β × Random :=
  if items.isEmpty then (none, g)
  else
    let (i, g) := g.below items.length
    (items[i]?, g)

/-- The items in random order: each, from the second on, changes places with
one of those up to itself. -/
def shuffle (g : Random) (items : Array β) : Array β × Random :=
  (List.range' 1 (items.size - 1)).foldl
    (fun (items, g) i =>
      let (j, g) := g.below (i + 1)
      (items.swapIfInBounds i j, g))
    (items, g)

theorem whole_of_le (g : Random) {lo hi : Float}
    (h : Binary64.floorWord hi ≤ Binary64.ceilWord lo) :
    g.whole lo hi = (Binary64.ceilWord lo, g) := by
  simp [whole, h]

end Random

end Stagecraft
