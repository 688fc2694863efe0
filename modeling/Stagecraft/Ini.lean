/-
Settings files: sections of keys and values.

A line is trimmed and cut at its first comment mark; empty lines say nothing.
A section begins with its name in brackets, up to the last closing one. Any
other line is a key and, after the first equals sign or colon, its value. Names
of sections and keys are kept in lower case. Lines before the first section
belong to the section `default`, a later value of a key replaces an earlier
one, and a section that is opened again goes on.
-/
import Stagecraft.Text.Blank
import Stagecraft.Decimal.Reader

namespace Stagecraft

/-- What is wrong with a line. -/
inductive IniFault where
  | openSection (line : Nat)
  | emptyKey (line : Nat)
  deriving DecidableEq, Repr

def IniFault.text : IniFault → String
  | openSection line =>
    "line " ++ toString line ++ ": Found opening bracket for section name but no closing bracket"
  | emptyKey line => "line " ++ toString line ++ ":0: Key cannot be empty"

/-- The entries in order of the lines: section, key, and the value if there is one. -/
structure Ini where
  entries : List (String × String × Option String) := []
  deriving Repr

namespace Ini

-- =============================================================== reading

def isComment (c : Char) : Bool := c == ';' || c == '#'

def isDelimiter (c : Char) : Bool := c == '=' || c == ':'

/-- What a line holds once blanks and comments are gone. -/
def content (line : List Char) : List Char :=
  Text.trim ((Text.trim line).takeWhile fun c => !isComment c)

/-- A name in lower case, without blanks around it. -/
def name (cs : List Char) : String := String.ofList ((Text.trim cs).map Char.toLower)

/-- The text before the last closing bracket, if there is one. -/
def beforeBracket? (cs : List Char) : Option (List Char) :=
  match cs.reverse.dropWhile fun c => c != ']' with
  | [] => none
  | _ :: before => some before.reverse

/-- The open section and the entries so far, after one more line. -/
def addLine (sec : String) (ini : Ini) (number : Nat) (line : List Char) :
    Except IniFault (String × Ini) :=
  match content line with
  | [] => .ok (sec, ini)
  | '[' :: rest =>
    match beforeBracket? rest with
    | some cs => .ok (name cs, ini)
    | none => .error (.openSection number)
  | cs =>
    let key := name (cs.takeWhile fun c => !isDelimiter c)
    if key = "" then .error (.emptyKey number)
    else
      let value? := match cs.dropWhile fun c => !isDelimiter c with
        | [] => none
        | _ :: value => some (String.ofList (Text.trim value))
      .ok (sec, ⟨ini.entries ++ [(sec, key, value?)]⟩)

def addLines (sec : String) (ini : Ini) (number : Nat) :
    List (List Char) → Except IniFault Ini
  | [] => .ok ini
  | line :: rest =>
    match addLine sec ini number line with
    | .ok (sec, ini) => addLines sec ini (number + 1) rest
    | .error e => .error e

def parse (text : String) : Except IniFault Ini :=
  addLines "default" {} 1 ((text.splitOn "\n").map String.toList)

/-- The value of a key, which is that of its last entry. -/
def get? (ini : Ini) (sec key : String) : Option String :=
  (ini.entries.reverse.find? fun e => e.1 == sec && e.2.1 == key).bind fun e => e.2.2

/-- A value that is a whole number of at most 64 bits. -/
def natural? (ini : Ini) (sec key : String) : Option Nat :=
  (ini.get? sec key).bind (readBelow? UInt64.size)

/-- A value that is a double. -/
def float? (ini : Ini) (sec key : String) : Option Float :=
  (ini.get? sec key).bind readFloat?

-- =============================================================== writing

/-- Sections with their keys and values, one line each. -/
def render (sections : List (String × List (String × String))) : String :=
  String.join (sections.map fun s =>
    "[" ++ s.1 ++ "]\n" ++ String.join (s.2.map fun p => p.1 ++ "=" ++ p.2 ++ "\n"))

-- =============================================================== listing

/-- The lines of a section, with one more of them if there is one. -/
def addTo (sections : List (String × List String)) (sec : String) (line : Option String) :
    List (String × List String) :=
  if sections.any fun s => s.1 == sec then
    sections.map fun s => if s.1 == sec then (sec, s.2 ++ line.toList) else s
  else sections ++ [(sec, line.toList)]

/-- The lines of a text by their sections, whatever they say. A line between brackets
opens a section, and the order in which sections and lines stand does not count. -/
def outline (text : String) : List (String × List String) :=
  let step (state : String × List (String × List String)) (line : List Char) :=
    let (sec, sections) := state
    let line := if line.getLast? = some '\r' then line.dropLast else line
    if line.isEmpty then state
    else if line.head? = some '[' ∧ line.getLast? = some ']' then
      let sec := String.ofList (line.drop 1).dropLast
      (sec, addTo sections sec none)
    else (sec, addTo sections sec (some (String.ofList line)))
  let sections := (((text.splitOn "\n").map String.toList).foldl step ("", [])).2
  (sections.map fun s => (s.1, s.2.mergeSort fun a b => decide (a ≤ b))).mergeSort
    fun a b => decide (a.1 ≤ b.1)

end Ini

end Stagecraft
