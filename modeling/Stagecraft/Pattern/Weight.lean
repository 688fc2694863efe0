/-
The weight of patterns: the memory that automata for them would take.

Such an automaton reads the bytes that write a text. There is one that reads
ahead, and remembers where the groups of a pattern were found, and one that
reads back. Each state weighs the same, and more where there are several ways
on from it. A set of characters beyond ASCII is a set of sequences of ranges of
bytes: ahead the sequences share what follows, and going back what they begin
with.
-/
import Stagecraft.Pattern.CharSet

namespace Stagecraft.Pattern

/-- The memory of the automata that read ahead and back, in bytes. -/
structure Weight where
  ahead : Nat
  back : Nat
  deriving DecidableEq, Repr

namespace Weight

/-- The weight of a state, of one of its ways on, and of a range of bytes that leads on. -/
def state : Nat := 32
def way : Nat := 4
def range : Nat := 8

def both (n : Nat) : Weight := ⟨n, n⟩

def add (v w : Weight) : Weight := ⟨v.ahead + w.ahead, v.back + w.back⟩

def map (f : Nat → Nat) (w : Weight) : Weight := ⟨f w.ahead, f w.back⟩

-- ================================================================== sets

/-- The sequences of ranges of six bits, and of a first range, that write the numbers of a
range; `n` is how many follow the first. -/
def sequences : Nat → Nat → Nat → List (List (Nat × Nat))
  | 0, lo, hi => [[(lo, hi)]]
  | n + 1, lo, hi =>
    let unit := 1 <<< (6 * (n + 1))
    let (first, last) := (lo / unit, hi / unit)
    let within (a lo hi : Nat) := (sequences n lo hi).map ((a, a) :: ·)
    if first = last then within first (lo % unit) (hi % unit)
    else
      let head := if lo % unit = 0 then [] else within first (lo % unit) (unit - 1)
      let tail := if hi % unit = unit - 1 then [] else within last 0 (hi % unit)
      let begins := if lo % unit = 0 then first else first + 1
      let ends := if hi % unit = unit - 1 then last + 1 else last
      let middle :=
        if begins < ends then [(begins, ends - 1) :: List.replicate (n + 1) (0, 63)] else []
      head ++ middle ++ tail

/-- The code points that are written with so many more bytes than one, and the least first
byte of these. -/
def blocks : List (Nat × Nat × Nat × Nat) :=
  [(0, 0x00, 0, 0x7F), (1, 0xC0, 0x80, 0x7FF), (2, 0xE0, 0x800, 0xD7FF), (2, 0xE0, 0xE000, 0xFFFF),
   (3, 0xF0, 0x10000, 0x10FFFF)]

/-- The sequences that write the characters of a set; the bits that mark a byte as a later one
are left out. -/
def sequencesOf (s : CharSet) : List (List (Nat × Nat)) :=
  s.flatMap fun r => blocks.flatMap fun (n, byte, first, last) =>
    let (lo, hi) := (max r.1 first, min r.2 last)
    if lo ≤ hi then
      (sequences n lo hi).map fun q => q.modifyHead fun b => (byte + b.1, byte + b.2)
    else []

/-- What follows the sequences that begin in a certain way. -/
def after (start : List (Nat × Nat)) (sequences : List (List (Nat × Nat))) :
    List (List (Nat × Nat)) :=
  (sequences.filter (start.isPrefixOf ·)).map (·.drop start.length)

/-- The weight of a set. -/
def ofSet (s : CharSet) : Weight :=
  if s.isEmpty then both state
  else if s.isAscii then both (2 * state + range * s.length)
  else
    let all := sequencesOf s
    let starts := (all.flatMap fun q => (List.range (q.length + 1)).map q.take).eraseDups
    let nodes := ((starts.filter fun q => !all.contains q).map fun q => after q all).eraseDups
    let ranges := (nodes.map fun rest => (rest.map List.head?).eraseDups.length).foldl (· + ·) 0
    { ahead := state * (nodes.length + 1) + range * ranges
      back := state * (starts.length + 1) + way * all.length }

-- =========================================================== repetitions

/-- The weight of what comes a number of times, from its own one; `mayStay` says whether it
may come without a character. -/
def times (mayStay : Bool) (least : Nat) (most : Option Nat) (w : Nat) : Nat :=
  match least, most with
  | 0, none => w + if mayStay then 3 * state + 4 * way else state + 2 * way
  | 0, some 1 => w + 2 * state + 2 * way
  | least, none => w * least + state + 2 * way
  | least, some most =>
    if least = most then w * least
    else
      w * least + (if least = 0 then 2 * state else state) +
        (most - least) * (w + state + 2 * way)

-- ================================================================ limits

/-- The greatest weight of an automaton. -/
def limit : Nat := 10 * 1024 * 1024

/-- What finding a pattern anywhere adds. -/
def search : Weight := ⟨6 * state + range + 2 * way, 4 * state + range + 2 * way⟩

def isAllowed (w : Weight) : Bool :=
  decide ((w.add search).ahead ≤ limit) && decide ((w.add search).back ≤ limit)

end Weight

end Stagecraft.Pattern
