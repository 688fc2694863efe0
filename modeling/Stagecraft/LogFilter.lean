/-
Which entries of a log are shown.

A filter is written as rules between commas. A rule is a level, or the
beginning of a source with a level after an equals sign; without a level the
beginning of a source asks for all levels. A rule takes the place of an earlier
one for the same sources. For an entry the rule with the longest beginning of
its source counts, the last of equally long ones, and shows it if the entry is
at least as grave as the rule's level. After a slash may stand a pattern that
has to occur in entries. A rule or a pattern that is none is ignored; without
rules only errors are shown.
-/
import Stagecraft.Notice
import Stagecraft.Pattern.Reader

namespace Stagecraft

/-- Shows entries up to a rank of level, of sources with this beginning or of
all sources. -/
structure LogRule where
  source : Option String
  rank : Nat
  deriving DecidableEq, Repr

structure LogFilter where
  rules : List LogRule
  /-- What has to occur in an entry. -/
  pattern : Option Pattern := none
  deriving DecidableEq, Repr

namespace LogRule

/-- The rank of a level that is named in any case; `off` is below all levels. -/
def rankOf? (word : String) : Option Nat :=
  match String.ofList (word.toList.map Char.toLower) with
  | "off" => some 0
  | "error" => some Level.error.rank
  | "warn" => some Level.warn.rank
  | "info" => some Level.info.rank
  | "debug" => some Level.debug.rank
  | "trace" => some Level.trace.rank
  | _ => none

def trim (s : String) : String := String.ofList (Text.trim s.toList)

def parse? (text : String) : Option LogRule :=
  match text.splitOn "=" with
  | [""] => none
  | [word] =>
    match rankOf? word with
    | some rank => some ⟨none, rank⟩
    | none => some ⟨some word, Level.trace.rank⟩
  | [source, word] =>
    if trim word = "" then some ⟨some source, Level.trace.rank⟩
    else (rankOf? (trim word)).map fun rank => ⟨some source, rank⟩
  | _ => none

/-- How much of a source a rule names, if it applies to the source. -/
def reach? (r : LogRule) (source : String) : Option Nat :=
  match r.source with
  | none => some 0
  | some name => if source.startsWith name then some name.length else none

end LogRule

namespace LogFilter

/-- Adds a rule, in the place of the one for the same sources. -/
def addRule (rules : List LogRule) (r : LogRule) : List LogRule :=
  if rules.any fun q => q.source == r.source then
    rules.map fun q => if q.source == r.source then r else q
  else rules ++ [r]

def parseRules (text : String) : List LogRule :=
  ((text.splitOn ",").filterMap fun rule => LogRule.parse? (LogRule.trim rule)).foldl addRule []

/-- A filter from its written form; more than one slash makes it void. -/
def parse (text : String) : LogFilter :=
  let (rules, pattern) := match text.splitOn "/" with
    | [rules] => (parseRules rules, none)
    | [rules, pattern] => (parseRules rules, Pattern.read? pattern)
    | _ => ([], none)
  ⟨if rules.isEmpty then [⟨none, Level.error.rank⟩] else rules, pattern⟩

/-- The rank that is shown of a source: that of the rule with the longest reach, the
last of equals. -/
def rankFor (f : LogFilter) (source : String) : Nat :=
  (f.rules.foldl (fun (best : Nat × Nat) r =>
    match r.reach? source with
    | some reach => if best.1 ≤ reach then (reach, r.rank) else best
    | none => best) (0, 0)).2

/-- Whether an entry is shown. -/
def shows (f : LogFilter) (level : Level) (source text : String) : Bool :=
  decide (level.rank ≤ f.rankFor source) && f.pattern.all (·.occursIn text)

end LogFilter

end Stagecraft
