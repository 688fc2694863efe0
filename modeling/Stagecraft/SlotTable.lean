/-
Names in the slots of a table, which settle the order in which they are listed.

A name has a mark of 64 bits. The slots of a table are searched in runs of
sixteen, the first of which begins at the slot that the low bits of the mark
say, and each further on by one run more than the one before; a name takes the
first slot that is free. Before a name is put into a table in which no more
than an eighth of the slots would stay free, the table is doubled and its names
are put in anew. Names are listed in the order of their slots.
-/
namespace Stagecraft

/-- Names in their slots. -/
structure SlotTable where
  slots : List (Option String) := []
  deriving DecidableEq, Repr

namespace SlotTable

-- ================================================================= marks

/-- The number that bytes write, the lowest first. -/
def word (bytes : List UInt8) : UInt64 :=
  bytes.foldr (fun b n => n * 256 + b.toUInt64) 0

/-- The halves of a product of 128 bits, one laid over the other. -/
def mix (a b : UInt64) : UInt64 :=
  let product := a.toNat * b.toNat
  UInt64.ofNat product ^^^ UInt64.ofNat (product / UInt64.size)

def firstSeed : UInt64 := 0x243f6a8885a308d3
def secondSeed : UInt64 := 0x13198a2e03707344
def blockSeed : UInt64 := 0xa4093822299f31d0

/-- Takes in blocks of sixteen bytes as long as more than one is left. -/
def takeBlocks : Nat → UInt64 × UInt64 → List UInt8 → UInt64 × UInt64
  | 0, seeds, _ => seeds
  | n + 1, (a, b), bytes =>
    if bytes.length ≤ 16 then (a, b)
    else
      let block := mix (a ^^^ word (bytes.take 8)) (blockSeed ^^^ word ((bytes.drop 8).take 8))
      takeBlocks n (b, block) (bytes.drop 16)

/-- The two words that short bytes are read as: their ends, which may share bytes. -/
def ends (bytes : List UInt8) : UInt64 × UInt64 :=
  let n := bytes.length
  if 4 ≤ n then
    let width := if 8 ≤ n then 8 else 4
    (word (bytes.take width), word (bytes.drop (n - width)))
  else (word (bytes.take 1), word ((bytes.drop (n / 2)).take 1 ++ bytes.drop (n - 1)))

/-- The digest of bytes. -/
def digest (bytes : List UInt8) : UInt64 :=
  let n := bytes.length
  let (a, b) := takeBlocks n (firstSeed, secondSeed) bytes
  let (x, y) := ends (bytes.drop (n - 16))
  mix (a ^^^ x) (b ^^^ y) ^^^ UInt64.ofNat n

def factor : UInt64 := 0xf1357aea2e62a9c5

/-- The mark of a name. -/
def mark (name : String) : UInt64 :=
  let m := (digest name.toUTF8.toList * factor + 0xFF) * factor
  m <<< 26 ||| m >>> 38

-- ================================================================= slots

def size (t : SlotTable) : Nat := t.slots.length

/-- The names in the order of their slots. -/
def names (t : SlotTable) : List String := t.slots.filterMap id

/-- How many names a table of this size may hold. -/
def room (size : Nat) : Nat := if size < 8 then size - 1 else size / 8 * 7

/-- The slots in the order in which they are searched. -/
def order (size start : Nat) : List Nat :=
  (List.range (size / 16 + 1)).flatMap fun run =>
    (List.range 16).map fun i => (start + 8 * run * (run + 1) + i) % size

/-- Puts a name into the first free slot. -/
def place (t : SlotTable) (name : String) : SlotTable :=
  match (order t.size ((mark name).toNat % t.size)).find? fun i => t.slots[i]? == some none with
  | some i => ⟨t.slots.set i (some name)⟩
  | none => t

/-- The table doubled, with its names in it. -/
def grow (t : SlotTable) : SlotTable :=
  t.names.foldl place ⟨List.replicate (max 4 (2 * t.size)) none⟩

/-- The table with a name, which it may hold already. -/
def insert (t : SlotTable) (name : String) : SlotTable :=
  let t := if t.names.length < room t.size then t else t.grow
  if t.names.contains name then t else t.place name

def ofNames (names : List String) : SlotTable := names.foldl insert {}

end SlotTable

end Stagecraft
