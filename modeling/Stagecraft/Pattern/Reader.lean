/-
Reading patterns from their written form.

Settings change how what follows is read, up to the end of the brackets that
they stand in: whether the case of letters counts, what lines are, whether
blanks and comments may stand between the parts, and whether the alphabet is
that of ASCII. Classes of letters and their cases are known for ASCII only.
So in the full alphabet a pattern cannot ask for them, and in that of ASCII a
set may not go beyond it.

Every reader gives what it has read and the text that is left, or nothing if
the text is no pattern.
-/
import Stagecraft.Pattern.Piece
import Stagecraft.Text.Letter

namespace Stagecraft.Pattern

abbrev Chars := List Char

/-- How a part of a pattern is read. -/
structure Settings where
  anyCase : Bool := false
  /-- Whether edges of the text are edges of its lines. -/
  lines : Bool := false
  /-- Whether a dot stands for line ends too. -/
  dotAll : Bool := false
  /-- Whether a carriage return ends a line. -/
  returns : Bool := false
  full : Bool := true
  /-- Whether blanks and comments say nothing. -/
  spaced : Bool := false
  deriving DecidableEq, Repr

namespace Settings

-- ================================================================ blanks

/-- Leaves out blanks, and comments up to the end of their lines. -/
def dropBlanks (comment : Bool) : Chars → Chars
  | [] => []
  | c :: cs =>
    if comment then dropBlanks (c != '\n') cs
    else if Text.isBlank c then dropBlanks false cs
    else if c = '#' then dropBlanks true cs
    else c :: cs

/-- What is left behind blanks that say nothing. -/
def skip (s : Settings) (cs : Chars) : Chars := if s.spaced then dropBlanks false cs else cs

/-- The next character behind blanks and one number sign. -/
def glance (sign : Bool) : Chars → Option Char
  | [] => none
  | c :: cs =>
    if Text.isBlank c then glance sign cs
    else if c = '#' ∧ ¬sign then glance true cs
    else some c

/-- The character that comes next, as far as a reader that goes on looks ahead. -/
def peek (s : Settings) (cs : Chars) : Option Char := if s.spaced then glance false cs else cs.head?

-- =============================================================== settings

/-- Switches one setting. The letter that makes repetitions frugal switches nothing that
matters here. -/
def switch (on : Bool) (s : Settings) (letter : Char) : Settings :=
  match letter with
  | 'i' => { s with anyCase := on }
  | 'm' => { s with lines := on }
  | 's' => { s with dotAll := on }
  | 'R' => { s with returns := on }
  | 'u' => { s with full := on }
  | 'x' => { s with spaced := on }
  | _ => s

/-- Switches the settings before a dash on and those behind it off. -/
def switchAll (s : Settings) (letters : Chars) : Settings :=
  let ons := letters.takeWhile (· != '-')
  let offs := (letters.dropWhile (· != '-')).drop 1
  offs.foldl (switch false) (ons.foldl (switch true) s)

/-- Whether letters name settings, each at most once; the same holds of the dash, which may
not be the last. -/
def areSettings (letters : Chars) : Bool :=
  letters.all ("imsURux-".toList.contains ·) && decide letters.Nodup &&
    letters.getLast? != some '-'

end Settings

open Settings

variable (s : Settings)

-- ============================================================= characters

/-- What a backslash and what follows it stand for, and what stands for itself. -/
inductive Atom where
  /-- A character; `isByte` where two hexadecimal digits wrote it. -/
  | char (c : Char) (isByte : Bool)
  | edge (e : Edge)
  /-- An edge that depends on what words are. -/
  | wordEdge (e : Edge)
  /-- A class of characters by its letter. -/
  | letterClass (letter : Char)
  deriving DecidableEq, Repr

def hexValue? (c : Char) : Option Nat :=
  if c.isDigit then some (c.toNat - '0'.toNat)
  else if 'a' ≤ c ∧ c ≤ 'f' then some (c.toNat - 'a'.toNat + 10)
  else if 'A' ≤ c ∧ c ≤ 'F' then some (c.toNat - 'A'.toNat + 10)
  else none

/-- The character with a number. -/
def charOf? (n : Nat) : Option Char := if n.isValidChar then some (Char.ofNat n) else none

/-- A number of hexadecimal digits. -/
def hexDigits (value : Nat) : Nat → Chars → Option (Nat × Chars)
  | 0, cs => some (value, cs)
  | _, [] => none
  | n + 1, c :: cs => do hexDigits (value * 16 + (← hexValue? c)) n (s.skip cs)

/-- Hexadecimal digits up to a closing brace. -/
def bracedHex (value : Nat) : Nat → Chars → Option (Nat × Chars)
  | 0, _ | _, [] => none
  | _, '\x7d' :: cs => some (value, s.skip cs)
  | n + 1, c :: cs => do bracedHex (value * 16 + (← hexValue? c)) n (s.skip cs)

/-- A character by its number, behind the letter that says how many digits there are. -/
def readHex (letter : Char) (cs : Chars) : Option (Atom × Chars) :=
  match s.skip cs with
  | '\x7b' :: cs =>
    match s.skip cs with
    | '\x7d' :: _ => none
    | cs => do
      let (n, cs) ← bracedHex s 0 cs.length cs
      return (.char (← charOf? n) false, cs)
  | cs => do
    let digits := if letter = 'x' then 2 else if letter = 'u' then 4 else 8
    let (n, cs) ← hexDigits s 0 digits cs
    return (.char (← charOf? n) (letter == 'x'), cs)

/-- Whether a character is one of those that name kinds of edges of words. -/
def isEdgeLetter (c : Char) : Bool := c.isAlpha || c == '-'

/-- The letters that come next. -/
def edgeLetters : Nat → Chars → Chars × Chars
  | 0, cs => ([], cs)
  | _, [] => ([], [])
  | n + 1, c :: cs =>
    if isEdgeLetter c then
      let (letters, cs) := edgeLetters n (s.skip cs)
      (c :: letters, cs)
    else ([], c :: cs)

/-- The kind of an edge of a word, in braces; other braces are left for a repetition. -/
def readWordEdge (cs : Chars) : Option (Atom × Chars) :=
  match cs with
  | '\x7b' :: rest =>
    match s.skip rest with
    | [] => none
    | c :: rest =>
      if isEdgeLetter c then
        match edgeLetters s rest.length.succ (c :: rest) with
        | (letters, '\x7d' :: rest) =>
          match String.ofList letters with
          | "start" => some (.wordEdge .wordStart, rest)
          | "end" => some (.wordEdge .wordEnd, rest)
          | "start-half" => some (.wordEdge .wordOpen, rest)
          | "end-half" => some (.wordEdge .wordClosed, rest)
          | _ => none
        | _ => none
      else some (.wordEdge .wordEdge, cs)
  | _ => some (.wordEdge .wordEdge, cs)

/-- What stands behind a backslash. Any character of ASCII but letters, digits and angles
stands for itself. -/
def readEscape : Chars → Option (Atom × Chars)
  | [] => none
  | c :: cs =>
    let one (a : Atom) : Option (Atom × Chars) := some (a, cs)
    match c with
    | 'x' | 'u' | 'U' => readHex s c cs
    | 'd' | 's' | 'w' | 'D' | 'S' | 'W' => one (.letterClass c)
    | 'a' => one (.char '\x07' false)
    | 'f' => one (.char '\x0c' false)
    | 't' => one (.char '\t' false)
    | 'n' => one (.char '\n' false)
    | 'r' => one (.char '\r' false)
    | 'v' => one (.char '\x0b' false)
    | 'A' => one (.edge .textStart)
    | 'z' => one (.edge .textEnd)
    | 'b' => readWordEdge s cs
    | 'B' => one (.wordEdge .noWordEdge)
    | '<' => one (.wordEdge .wordStart)
    | '>' => one (.wordEdge .wordEnd)
    | c => if c.toNat < 0x80 ∧ ¬c.isAlphanum then one (.char c false) else none

-- ============================================================ named sets

/-- A set of ASCII by its name. -/
def namedSet? (name : String) : Option CharSet :=
  match name with
  | "alnum" => some [(0x30, 0x39), (0x41, 0x5A), (0x61, 0x7A)]
  | "alpha" => some [(0x41, 0x5A), (0x61, 0x7A)]
  | "ascii" => some [(0, 0x7F)]
  | "blank" => some [(0x09, 0x09), (0x20, 0x20)]
  | "cntrl" => some [(0, 0x1F), (0x7F, 0x7F)]
  | "digit" => some [(0x30, 0x39)]
  | "graph" => some [(0x21, 0x7E)]
  | "lower" => some [(0x61, 0x7A)]
  | "print" => some [(0x20, 0x7E)]
  | "punct" => some [(0x21, 0x2F), (0x3A, 0x40), (0x5B, 0x60), (0x7B, 0x7E)]
  | "space" => some [(0x09, 0x0D), (0x20, 0x20)]
  | "upper" => some [(0x41, 0x5A)]
  | "word" => some [(0x30, 0x39), (0x41, 0x5A), (0x5F, 0x5F), (0x61, 0x7A)]
  | "xdigit" => some [(0x30, 0x39), (0x41, 0x46), (0x61, 0x66)]
  | _ => none

/-- The set of a letter, where it is known: in ASCII, and not for what a capital leaves out. -/
def letterSet? (letter : Char) : Option CharSet :=
  if s.full then none
  else match letter with
    | 'd' => namedSet? "digit"
    | 's' => namedSet? "space"
    | 'w' => namedSet? "word"
    | _ => none

/-- The set of a character in a class. -/
def charSet? (c : Char) : Option CharSet :=
  if s.full then (if s.anyCase then none else some (.single c))
  else if c.toNat < 0x80 then some (.single c) else none

/-- A set with the cases that count as the same. -/
def Settings.fold (set : CharSet) : CharSet := if s.anyCase then set.withCases else set

/-- What is left out of a set, which is known in the full alphabet. -/
def negated? (negated : Bool) (set : CharSet) : Option CharSet :=
  if negated then (if s.full then some set.complement else none) else some set

/-- A set between colons and brackets, behind the opening bracket. -/
def readNamed (cs : Chars) : Option (CharSet × Bool × Chars) :=
  match cs with
  | ':' :: cs =>
    let negated := cs.head? == some '^'
    let cs := if negated then cs.drop 1 else cs
    match cs.dropWhile (· != ':') with
    | ':' :: ']' :: rest =>
      (namedSet? (String.ofList (cs.takeWhile (· != ':')))).map fun set => (set, negated, rest)
    | _ => none
  | _ => none

-- ================================================================ classes

/-- A part of a class, and how deeply it is nested. -/
structure Operand where
  set : CharSet := []
  depth : Nat := 0
  deriving Repr

inductive SetOp where
  | inter
  | diff
  | symmDiff
  deriving DecidableEq, Repr

def SetOp.apply : SetOp → CharSet → CharSet → CharSet
  | inter => .inter
  | diff => .diff
  | symmDiff => .symmDiff

/-- A class that is read: whether what it names is left out, the part before the last sign
between sets with that sign, and the parts since, the last one first. -/
structure OpenClass where
  negated : Bool := false
  before : Option (Operand × SetOp) := none
  parts : List Operand := []
  deriving Repr

namespace OpenClass

/-- The parts since the last sign, together. -/
def together : List Operand → Operand
  | [] => {}
  | [x] => x
  | xs => ⟨xs.foldl (fun set x => set.union x.set) [], xs.foldl (fun d x => max d x.depth) 0 + 1⟩

def add (k : OpenClass) (set : CharSet) (depth : Nat := 0) : OpenClass :=
  { k with parts := ⟨set, depth⟩ :: k.parts }

/-- All parts, the signs taken from left to right. -/
def all (k : OpenClass) : Operand :=
  let right := together k.parts
  match k.before with
  | none => right
  | some (left, op) =>
    ⟨op.apply (s.fold left.set) (s.fold right.set), max left.depth right.depth + 1⟩

/-- A sign between sets. -/
def sign (k : OpenClass) (op : SetOp) : OpenClass :=
  { k with before := some (k.all s, op), parts := [] }

def close? (k : OpenClass) : Option Operand :=
  (negated? s k.negated (s.fold (k.all s).set)).map fun set => ⟨set, (k.all s).depth + 1⟩

end OpenClass

/-- Dashes at the beginning of a class. -/
def readDashes (k : OpenClass) : Nat → Chars → Option (OpenClass × Chars)
  | n + 1, '-' :: cs => do readDashes (k.add (← charSet? s '-')) n (s.skip cs)
  | _, cs => some (k, cs)

/-- The beginning of a class, behind its bracket. A closing bracket that comes first stands for
itself. -/
def readOpening (cs : Chars) : Option (OpenClass × Chars) := do
  let (negated, cs) := match s.skip cs with
    | '^' :: cs => (true, s.skip cs)
    | cs => (false, cs)
  let (k, cs) ← readDashes s { negated } cs.length cs
  match cs with
  | ']' :: rest =>
    if k.parts.isEmpty then return (k.add (← charSet? s ']'), s.skip rest) else return (k, cs)
  | cs => return (k, cs)

/-- One character or escape in a class. -/
def readItem : Chars → Option (Atom × Chars)
  | [] => none
  | '\\' :: cs => readEscape s cs
  | c :: cs => some (.char c false, cs)

/-- The set of an item that is no part of a range. -/
def Atom.set? : Atom → Option CharSet
  | char c _ => charSet? s c
  | letterClass letter => letterSet? s letter
  | _ => none

/-- One item of a class, or a range of characters. -/
def readRange (cs : Chars) : Option (CharSet × Chars) := do
  let (first, cs) ← readItem s cs
  match s.skip cs with
  | [] => none
  | '-' :: rest =>
    if s.peek rest = some ']' ∨ s.peek rest = some '-' then return (← first.set? s, '-' :: rest)
    else
      let (last, cs) ← readItem s (s.skip rest)
      match first, last with
      | .char lo _, .char hi _ =>
        let _ ← charSet? s lo
        let _ ← charSet? s hi
        if lo ≤ hi then return ([(lo.toNat, hi.toNat)], cs) else none
      | _, _ => none
  | cs => return (← first.set? s, cs)

/-- The rest of a class. -/
def readClass : Nat → OpenClass → Chars → Option (Operand × Chars)
  | 0, _, _ => none
  | n + 1, k, cs =>
    match s.skip cs with
    | [] => none
    | ']' :: rest => do return (← k.close? s, rest)
    | '&' :: '&' :: rest => readClass n (k.sign s .inter) rest
    | '-' :: '-' :: rest => readClass n (k.sign s .diff) rest
    | '~' :: '~' :: rest => readClass n (k.sign s .symmDiff) rest
    | '[' :: rest =>
      match readNamed rest with
      | some (set, negated, rest) => do
        let set ← if s.full && s.anyCase then none else negated? s negated (s.fold set)
        readClass n (k.add set) rest
      | none => do
        let (inner, cs) ← readOpening s rest
        let (x, cs) ← readClass n inner cs
        readClass n (k.add x.set x.depth) cs
    | cs => do
      let (set, rest) ← readRange s cs
      readClass n (k.add set) rest

-- =================================================================== atoms

/-- The piece of an atom. -/
def Atom.piece? : Atom → Option Piece
  | char c isByte =>
    if s.full then (if s.anyCase then none else some (.ofChar c))
    else if isByte ∧ 0x80 ≤ c.toNat then none
    else if c.toNat < 0x80 then some (.ofSet (s.fold (.single c)))
    else some (.ofChar c)
  | edge e => some (.ofEdge e)
  | wordEdge e => some (if s.full then .unknownEdge else .ofEdge e)
  | letterClass letter => (letterSet? s letter).map fun set => .ofSet set

/-- What a dot stands for; in the alphabet of ASCII it is unknown where characters end. -/
def dot? : Option Piece :=
  if !s.full then none
  else if s.dotAll then some (.ofSet [(0, CharSet.last)])
  else
    let ends : CharSet := if s.returns then [(0x0A, 0x0A), (0x0D, 0x0D)] else [(0x0A, 0x0A)]
    some (.ofSet ends.complement)

/-- A part that is no bracket, no sign and no repetition. -/
def readAtom : Chars → Option (Piece × Chars)
  | [] => none
  | '\\' :: cs => do
    let (a, cs) ← readEscape s cs
    return (← a.piece? s, cs)
  | '.' :: cs => do return (← dot? s, cs)
  | '^' :: cs => some (.ofEdge (if s.lines then .lineStart s.returns else .textStart), cs)
  | '$' :: cs => some (.ofEdge (if s.lines then .lineEnd s.returns else .textEnd), cs)
  | c :: cs => do return (← (Atom.char c false).piece? s, cs)

-- ============================================================= repetitions

/-- A number below 2^32, if there is one, with blanks around it. -/
def digitsOf : Nat → Chars → Chars × Chars
  | n + 1, c :: cs =>
    if c.isDigit then
      let (digits, cs) := digitsOf n (s.skip cs)
      (c :: digits, cs)
    else ([], c :: cs)
  | _, cs => ([], cs)

def readCount (cs : Chars) : Option Nat × Chars :=
  let cs := cs.dropWhile Text.isBlank
  let (digits, cs) := digitsOf s cs.length cs
  let value := digits.foldl (fun n c => n * 10 + (c.toNat - '0'.toNat)) 0
  (if digits.isEmpty ∨ UInt32.size ≤ value then none else some value,
    cs.dropWhile Text.isBlank)

/-- How often something may come, behind an opening brace. -/
def readCounts (cs : Chars) : Option (Nat × Option Nat × Chars) :=
  match readCount s (s.skip cs) with
  | (some least, '\x7d' :: rest) => some (least, some least, rest)
  | (some least, ',' :: rest) =>
    match s.skip rest with
    | '\x7d' :: rest => some (least, none, rest)
    | rest =>
      match readCount s rest with
      | (some most, '\x7d' :: rest) => if least ≤ most then some (least, some most, rest) else none
      | _ => none
  | _ => none

/-- A repetition, without the question mark that makes it frugal. -/
def readRepetition : Chars → Option (Nat × Option Nat × Chars)
  | '?' :: cs => some (0, some 1, frugal cs)
  | '*' :: cs => some (0, none, frugal cs)
  | '+' :: cs => some (1, none, frugal cs)
  | '\x7b' :: cs => do
    let (least, most, cs) ← readCounts s cs
    return (least, most, frugal (s.skip cs))
  | _ => none
where
  frugal (cs : Chars) : Chars := if cs.head? = some '?' then cs.drop 1 else cs

-- ================================================================ brackets

/-- What an opening bracket begins. -/
inductive Opening where
  /-- Settings for what follows. -/
  | settings (s : Settings)
  /-- A piece that is read with settings of its own; one with a name may be remembered. -/
  | piece (s : Settings) (remembered : Bool) (name : Option String)
  deriving DecidableEq, Repr

/-- Whether a character may stand in the name of a piece. -/
def isNameChar (first : Bool) (c : Char) : Bool :=
  c == '_' || Text.isLetter c ||
    !first && (c == '.' || c == '[' || c == ']' || Text.isNumber c)

/-- The name of a piece, up to an angle. -/
def readName (cs : Chars) : Option (String × Chars) :=
  let name := cs.takeWhile (· != '>')
  match name, cs.dropWhile (· != '>') with
  | c :: more, '>' :: rest =>
    if isNameChar true c && more.all (isNameChar false) then some (String.ofList name, rest)
    else none
  | _, _ => none

/-- What stands behind an opening bracket. Looking around is not possible. -/
def readBracket (names : List String) (cs : Chars) : Option (Opening × Chars) :=
  let named (cs : Chars) : Option (Opening × Chars) := do
    let (name, cs) ← readName cs
    if names.contains name then none else return (.piece s true (some name), cs)
  match s.skip cs with
  | '?' :: '=' :: _ | '?' :: '!' :: _ | '?' :: '<' :: '=' :: _ | '?' :: '<' :: '!' :: _ => none
  | '?' :: 'P' :: '<' :: cs | '?' :: '<' :: cs => named cs
  | '?' :: cs =>
    let ends (c : Char) : Bool := c == ':' || c == ')'
    let letters := cs.takeWhile fun c => !ends c
    if !areSettings letters then none
    else match cs.dropWhile fun c => !ends c with
      | ':' :: rest => some (.piece (s.switchAll letters) false none, rest)
      | ')' :: rest =>
        if letters.isEmpty then none else some (.settings (s.switchAll letters), rest)
      | _ => none
  | cs => some (.piece s true none, cs)

-- ============================================================ the whole

/-- A pattern that is read: the settings, the names of pieces, the branches before the last
bar, and the pieces behind it, each with the last one first. -/
structure OpenPiece where
  settings : Settings := {}
  names : List String := []
  branches : List Piece := []
  pieces : List Piece := []

namespace OpenPiece

def add (o : OpenPiece) (p : Piece) : OpenPiece := { o with pieces := p :: o.pieces }

/-- A bar between branches. -/
def bar (o : OpenPiece) : OpenPiece :=
  { o with branches := .inOrder o.pieces.reverse :: o.branches, pieces := [] }

/-- All branches. -/
def whole (o : OpenPiece) : Piece := .oneOf o.bar.branches.reverse

/-- Repeats the last piece. -/
def repeatLast? (o : OpenPiece) (least : Nat) (most : Option Nat) : Option OpenPiece :=
  match o.pieces with
  | p :: ps => if p.stands then some { o with pieces := p.times least most :: ps } else none
  | [] => none

end OpenPiece

/-- Reads up to the end, or up to a closing bracket without an opening one. -/
def readPieces : Nat → OpenPiece → Chars → Option (OpenPiece × Chars)
  | 0, _, _ => none
  | n + 1, o, cs =>
    match o.settings.skip cs with
    | [] => some (o, [])
    | ')' :: rest => some (o, ')' :: rest)
    | '|' :: rest => readPieces n o.bar rest
    | '(' :: rest => do
      let (opening, rest) ← readBracket o.settings o.names rest
      match opening with
      | .settings settings => readPieces n ({ o with settings }.add .setting) rest
      | .piece settings remembered name =>
        let (inner, rest) ← readPieces n { settings, names := name.toList ++ o.names } rest
        match rest with
        | ')' :: rest =>
          readPieces n ({ o with names := inner.names }.add (inner.whole.group remembered)) rest
        | _ => none
    | '[' :: rest => do
      let (k, rest) ← readOpening o.settings rest
      let (x, rest) ← readClass o.settings rest.length.succ k rest
      readPieces n (o.add (.ofSet x.set x.depth)) rest
    | c :: rest =>
      if c = '?' ∨ c = '*' ∨ c = '+' ∨ c = '\x7b' then do
        let (least, most, rest) ← readRepetition o.settings (c :: rest)
        readPieces n (← o.repeatLast? least most) rest
      else do
        let (p, rest) ← readAtom o.settings (c :: rest)
        readPieces n (o.add p) rest

/-- The pattern that a text writes. -/
def read? (text : String) : Option Pattern := do
  let cs := text.toList
  match ← readPieces cs.length.succ {} cs with
  | (o, []) => if o.whole.isAllowed then some o.whole.pattern else none
  | _ => none

end Stagecraft.Pattern
