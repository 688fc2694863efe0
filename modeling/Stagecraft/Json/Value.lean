/-
JSON values, and how they are scanned from text.

A number keeps its digits, and a string whose escapes hold half of a
surrogate pair stays a string without a text: whether either is acceptable
is for the reader of the value to decide, and a reader that skips the value
does not mind. Members of an object keep their order, and keys may repeat.

Each scanner takes the characters that are left and gives those that are left
after it. Values nest, so their scanners count down a fuel; twice the length of
the text is enough, since a bracket takes two steps down and one character.
-/
import Stagecraft.Json.Number

namespace Stagecraft

inductive Json where
  | null
  | bool (value : Bool)
  | number (value : Json.Number)
  /-- A string; one that holds half of a surrogate pair has no text. -/
  | string (text : Option String)
  | array (items : List Json)
  | object (members : List (Option String × Json))
  deriving Inhabited

namespace Json

def isBlank (c : Char) : Bool := c == ' ' || c == '\n' || c == '\t' || c == '\r'

def skipBlank (cs : List Char) : List Char := cs.dropWhile isBlank

-- =============================================================== numbers

/-- The digits before the point: a zero alone, or digits that begin with another. -/
def scanWhole : List Char → Option (List Char × List Char)
  | '0' :: r =>
    match r with
    | c :: _ => if c.isDigit then none else some (['0'], r)
    | [] => some (['0'], r)
  | r =>
    let (ds, rest) := r.span Char.isDigit
    if ds.isEmpty then none else some (ds, rest)

/-- The digits after a point, at least one; without a point there are none. -/
def scanFraction : List Char → Option (List Char × List Char)
  | '.' :: r =>
    let (ds, rest) := r.span Char.isDigit
    if ds.isEmpty then none else some (ds, rest)
  | r => some ([], r)

def scanNumber (cs : List Char) : Option (Number × List Char) := do
  let (negative, r) := match cs with
    | '-' :: r => (true, r)
    | r => (false, r)
  let (whole, r) ← scanWhole r
  let (fraction, r) ← scanFraction r
  let (power, r) ← Numeral.scanExponent r
  some (⟨negative, whole, fraction, power⟩, r)

-- =============================================================== strings

def hexDigit? (c : Char) : Option Nat :=
  if c.isDigit then some (c.toNat - 48)
  else if 'a' ≤ c ∧ c ≤ 'f' then some (c.toNat - 87)
  else if 'A' ≤ c ∧ c ≤ 'F' then some (c.toNat - 55)
  else none

/-- The 16-bit unit of four hexadecimal digits. -/
def scanUnit : List Char → Option (Nat × List Char)
  | a :: b :: c :: d :: r => do
    let a ← hexDigit? a
    let b ← hexDigit? b
    let c ← hexDigit? c
    let d ← hexDigit? d
    some (((a * 16 + b) * 16 + c) * 16 + d, r)
  | _ => none

def isHighHalf (u : Nat) : Bool := decide (0xD800 ≤ u ∧ u < 0xDC00)

def isLowHalf (u : Nat) : Bool := decide (0xDC00 ≤ u ∧ u < 0xE000)

/-- The character of an escaped unit, taken together with a second one when the
two are the halves of a pair. A half on its own is no character. -/
def scanEscapedUnit (cs : List Char) : Option (Option Char × List Char) :=
  (scanUnit cs).bind fun (high, r) =>
    if isHighHalf high then
      match r with
      | '\\' :: 'u' :: r' =>
        (scanUnit r').map fun (low, rest) =>
          if isLowHalf low then
            (some (Char.ofNat (0x10000 + (high - 0xD800) * 0x400 + (low - 0xDC00))), rest)
          else (none, r)
      | _ => some (none, r)
    else if isLowHalf high then some (none, r)
    else some (some (Char.ofNat high), r)

/-- One character of a string, plain or escaped. Control characters have to be
escaped. -/
def scanChar : List Char → Option (Option Char × List Char)
  | '\\' :: e :: r =>
    match e with
    | '"' => some (some '"', r)
    | '\\' => some (some '\\', r)
    | '/' => some (some '/', r)
    | 'b' => some (some '\x08', r)
    | 'f' => some (some '\x0c', r)
    | 'n' => some (some '\n', r)
    | 'r' => some (some '\r', r)
    | 't' => some (some '\t', r)
    | 'u' => scanEscapedUnit r
    | _ => none
  | c :: r => if c.toNat < 0x20 ∨ c = '\\' then none else some (some c, r)
  | [] => none

/-- What is left of a string up to its closing quote. -/
def scanText : Nat → List Char → Option (Option (List Char) × List Char)
  | 0, _ => none
  | n + 1, cs =>
    match cs with
    | '"' :: r => some (some [], r)
    | cs => do
      let (c, r) ← scanChar cs
      let (text, r) ← scanText n r
      some (c.bind fun c => text.map (c :: ·), r)

/-- A string after its opening quote. -/
def scanString (cs : List Char) : Option (Option String × List Char) :=
  (scanText (cs.length + 1) cs).map fun (text, r) => (text.map String.ofList, r)

-- ================================================================ values

/-- The rest after a word that has to stand first. -/
def scanWord (word : List Char) (value : Json) (cs : List Char) : Option (Json × List Char) :=
  if word.isPrefixOf cs then some (value, cs.drop word.length) else none

mutual

/-- A value, blanks before it skipped. -/
def scanValue : Nat → List Char → Option (Json × List Char)
  | 0, _ => none
  | n + 1, cs =>
    match skipBlank cs with
    | '"' :: r => (scanString r).map fun (text, r) => (string text, r)
    | '[' :: r =>
      match skipBlank r with
      | ']' :: r => some (array [], r)
      | r => (scanItems n r).map fun (items, r) => (array items, r)
    | '\x7b' :: r =>
      match skipBlank r with
      | '\x7d' :: r => some (object [], r)
      | r => (scanMembers n r).map fun (members, r) => (object members, r)
    | 'n' :: r => scanWord ['u', 'l', 'l'] null r
    | 't' :: r => scanWord ['r', 'u', 'e'] (bool true) r
    | 'f' :: r => scanWord ['a', 'l', 's', 'e'] (bool false) r
    | cs => (scanNumber cs).map fun (value, r) => (number value, r)

/-- The items of an array that has at least one, and its closing bracket. -/
def scanItems : Nat → List Char → Option (List Json × List Char)
  | 0, _ => none
  | n + 1, cs => do
    let (value, r) ← scanValue n cs
    match skipBlank r with
    | ']' :: r => some ([value], r)
    | ',' :: r =>
      let (items, r) ← scanItems n r
      some (value :: items, r)
    | _ => none

/-- The members of an object that has at least one, and its closing brace. -/
def scanMembers : Nat → List Char → Option (List (Option String × Json) × List Char)
  | 0, _ => none
  | n + 1, cs =>
    match skipBlank cs with
    | '"' :: r => do
      let (key, r) ← scanString r
      match skipBlank r with
      | ':' :: r =>
        let (value, r) ← scanValue n r
        match skipBlank r with
        | '\x7d' :: r => some ([(key, value)], r)
        | ',' :: r =>
          let (members, r) ← scanMembers n r
          some ((key, value) :: members, r)
        | _ => none
      | _ => none
    | _ => none

end

/-- The value that a whole text stands for, blanks around it allowed. -/
def read? (text : String) : Option Json :=
  let cs := text.toList
  match scanValue (2 * cs.length + 2) cs with
  | some (value, r) => if (skipBlank r).isEmpty then some value else none
  | none => none

end Json

end Stagecraft
