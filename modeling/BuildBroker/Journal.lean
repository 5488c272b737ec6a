import BuildBroker.Text.Blank
import BuildBroker.Text.Natural

/-!
# The Journal

What the broker writes about its own work: entries of different weight from different places, and
the filter that decides which of them are written. A filter is a list of rules for places; of the
rules whose place begins the place of an entry, the longest decides.
-/

namespace BuildBroker.Journal

/-- How much an entry matters. -/
inductive Level where
  | error
  | warn
  | info
  | debug
  | trace
deriving DecidableEq, Repr

namespace Level

/-- Levels as numbers; the more an entry matters the smaller is the number. -/
def rank : Level → Nat
  | error => 1
  | warn => 2
  | info => 3
  | debug => 4
  | trace => 5

/-- The word for a level. -/
def word : Level → String
  | error => "ERROR"
  | warn => "WARN"
  | info => "INFO"
  | debug => "DEBUG"
  | trace => "TRACE"

end Level

/-- An entry. -/
structure Entry where
  level : Level
  place : String
  text : String
deriving DecidableEq, Repr

/-- The line of an entry. -/
def Entry.line (e : Entry) : String :=
  e.level.word ++ " " ++ e.place ++ ": " ++ e.text

/-- A rule: entries from places that begin like this are written up to a rank. -/
structure Rule where
  place : String
  rank : Nat
deriving DecidableEq, Repr

/-- The rank that a word or a digit stands for; entries of no rank are written under zero. -/
def readRank? (s : String) : Option Nat :=
  let lower := String.ofList (s.toList.map Char.toLower)
  let words := [("off", 0), ("error", 1), ("warn", 2), ("info", 3), ("debug", 4), ("trace", 5)]
  match words.find? (·.1 = lower) with
  | some (_, n) => some n
  | none => (Text.readCounter? s).bind fun n => if n ≤ 5 then some n else none

/-- Whether a text can be a place. -/
def isPlace (cs : List Char) : Bool :=
  match cs with
  | [] => false
  | c :: _ => c.isAlphanum || c = '-' || c = ':' || c = '_'

/-- Reads a rule: a rank, a place, or both with an equals sign between them. A place alone is for
entries of every rank. -/
def readRule? (s : String) : Option Rule :=
  let cs := Text.trimChars s.toList
  let place := cs.takeWhile (· ≠ '=')
  if !isPlace cs then none
  else match cs.drop place.length with
    | [] =>
      match readRank? (String.ofList cs) with
      | some n => some ⟨"", n⟩
      | none => some ⟨String.ofList cs, 5⟩
    | _ :: [] => some ⟨String.ofList place, 5⟩
    | _ :: rank => (readRank? (String.ofList rank)).map fun n => ⟨String.ofList place, n⟩

/-- A filter. -/
abbrev Filter := List Rule

/-- The filter where none is set. -/
def Filter.usual : Filter := [⟨"", 3⟩]

/-- The variable that sets the filter. -/
def filterVariable : String := "RUST_LOG"

/-- Reads a filter; a text that is none has no effect. Without rules only errors are written. -/
def Filter.read (setting : Option String) : Filter :=
  match setting with
  | none => .usual
  | some s =>
    match ((s.splitOn ",").filter (· ≠ "")).mapM readRule? with
    | none => .usual
    | some [] => [⟨"", 1⟩]
    | some rules => rules

/-- The rule that decides about a place: of the longest, the last. -/
def Filter.rule? (f : Filter) (place : String) : Option Rule :=
  f.foldl (fun best r =>
    if !r.place.toList.isPrefixOf place.toList then best
    else match best with
      | some b => if b.place.length ≤ r.place.length then some r else some b
      | none => some r) none

/-- Whether an entry is written. -/
def Filter.admits (f : Filter) (e : Entry) : Bool :=
  match f.rule? e.place with
  | some r => e.level.rank ≤ r.rank
  | none => false

end BuildBroker.Journal
