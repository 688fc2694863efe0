/-
Text without what steers a terminal.

Of the control characters only the blank ones are text. An escape begins a
sequence that is left out up to its last character: a short one with a letter
or digit, a control sequence after a bracket, a command that ends with a bell,
or a string that ends with the C1 character for it. Anything outside of ASCII
is left out inside of them.

A blank control character within a short or a control sequence is kept, and
the text behind it too, up to the next control character. That one goes on
with the sequence where it was broken off, unless something outside of ASCII
has been kept since.
-/
import Stagecraft.Text.Blank

namespace Stagecraft.Text

/-- What a character belongs to, if it is not kept. -/
inductive Sequence where
  | plain
  /-- Behind an escape. -/
  | escape
  /-- Behind an escape and a mark. -/
  | marked
  | control
  /-- A command to the system around the terminal. -/
  | command
  /-- A message to the device, before its parameters. -/
  | device
  | parameters
  /-- Marks behind the parameters. -/
  | marks
  | string
  deriving DecidableEq, Repr

def isBlankControl (c : Char) : Bool :=
  c == '\t' || c == '\n' || c == '\x0c' || c == '\r'

/-- Whether a character is text where no sequence goes on. -/
def isText (c : Char) : Bool := isBlankControl c || decide (0x20 ≤ c.toNat) && c.toNat != 0x7F

/-- Whether the character lies between two others. -/
def isBetween (first last c : Char) : Bool := decide (first ≤ c) && decide (c ≤ last)

/-- Whether a byte of the character is 9C, which ends a string. -/
def endsString (c : Char) : Bool := (String.singleton c).toUTF8.toList.contains 0x9C

namespace Sequence

/-- What begins with a character after an escape. -/
def afterEscape (c : Char) : Sequence :=
  if c = '[' then control
  else if c = ']' then command
  else if c = 'P' then device
  else if c = 'X' ∨ c = '^' ∨ c = '_' then string
  else plain

/-- What goes on behind a character of a message to the device. A parameter in a
place where none may be makes the rest a string. -/
def afterDevice (s : Sequence) (c : Char) : Sequence :=
  if isBetween ' ' '/' c then marks
  else if isBetween '0' '?' c then
    if s = device ∨ (s = parameters ∧ isBetween '0' ';' c) then parameters else string
  else if isBetween '@' '~' c then string
  else s

/-- What goes on behind a character that no text goes before, and whether the
character is kept. -/
def skip (s : Sequence) (c : Char) : Sequence × Bool :=
  if c = '\x1b' then (escape, false)
  else if c = '\x18' ∨ c = '\x1a' then (plain, false)
  else match s with
    | plain => (plain, isText c)
    | escape =>
      if isBlankControl c then (escape, true)
      else if isBetween ' ' '/' c then (marked, false)
      else if isBetween '0' '~' c then (afterEscape c, false)
      else (escape, false)
    | marked =>
      if isBlankControl c then (marked, true)
      else (if isBetween '0' '~' c then plain else marked, false)
    | control =>
      if isBlankControl c then (control, true)
      else (if isBetween '@' '~' c then plain else control, false)
    | command => (if c = '\x07' then plain else command, false)
    | string => (if endsString c then plain else string, false)
    | device | parameters | marks => (s.afterDevice c, false)

/-- What goes on behind a character, and whether the character is kept; `kept` says
whether the one before it was. -/
def next (s : Sequence) (kept : Bool) (c : Char) : Sequence × Bool :=
  if kept && isText c then (if c.toNat < 0x80 then s else plain, true) else s.skip c

/-- The characters that are kept. -/
def keep (s : Sequence) (kept : Bool) : List Char → List Char
  | [] => []
  | c :: cs =>
    match s.next kept c with
    | (s, true) => c :: keep s true cs
    | (s, false) => keep s false cs

/-- What is kept was there, in the same order. -/
theorem keep_sublist (s : Sequence) (kept : Bool) (cs : List Char) :
    (s.keep kept cs).Sublist cs := by
  induction cs generalizing s kept with
  | nil => exact List.Sublist.refl []
  | cons c cs ih =>
    simp only [keep]
    split
    · exact (ih _ _).cons_cons c
    · exact (ih _ _).cons c

/-- Text without control characters is kept as it is. -/
theorem keep_eq_self (cs : List Char) (kept : Bool) (h : ∀ c ∈ cs, isText c = true) :
    plain.keep kept cs = cs := by
  induction cs generalizing kept with
  | nil => rfl
  | cons c cs ih =>
    have hc : isText c = true := h c (by simp)
    have hs : plain.next kept c = (plain, true) := by
      have h1 : c ≠ '\x1b' := by rintro rfl; simp [isText, isBlankControl] at hc
      have h2 : c ≠ '\x18' := by rintro rfl; simp [isText, isBlankControl] at hc
      have h3 : c ≠ '\x1a' := by rintro rfl; simp [isText, isBlankControl] at hc
      cases kept <;> simp [next, skip, hc, h1, h2, h3]
    simp only [keep, hs]
    rw [ih true fun d hd => h d (by simp [hd])]

end Sequence

/-- A text without control characters and sequences. -/
def dropControls (s : String) : String := String.ofList (Sequence.plain.keep false s.toList)

end Stagecraft.Text
