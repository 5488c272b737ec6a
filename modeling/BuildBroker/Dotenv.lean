import BuildBroker.Text.Blank
import BuildBroker.Text.Natural
import BuildBroker.Text.Bytes
import BuildBroker.Text.Letter
import BuildBroker.Env

/-!
# Files of Variables

A `.env` file sets variables line by line: `NAME=value`, with optional `export`, comments, two kinds
of quotes, escapes and references to other variables. A quoted value may run over several lines.
A variable that is set already is kept, so the first assignment wins. Reading stops at the first
malformed line; what the lines before it have set stays set.
-/

namespace BuildBroker.Dotenv

/-! ## Logical lines -/

/-- Where in a line the scan for its end stands. -/
inductive Scan where
  | plain
  | afterBlank
  | escaped
  | weak (escaped : Bool)
  | strong (escaped : Bool)
deriving DecidableEq

/-- How far a line goes: to its end in some state, or to a comment. -/
inductive LineEnd where
  | state (s : Scan)
  | comment (length : Nat)

/-- Scans a line; `i` counts the characters so far. -/
def scanLine (s : Scan) (i : Nat) : List Char → LineEnd
  | [] => .state s
  | c :: cs =>
    let fresh : Scan :=
      if c = '\\' then .escaped
      else if c = '\x22' then .weak false
      else if c = '\x27' then .strong false
      else .plain
    match s with
    | .plain =>
      if Text.isBlank c && c ≠ '\n' && c ≠ '\r' then scanLine .afterBlank (i + 1) cs
      else scanLine fresh (i + 1) cs
    | .afterBlank => if c = '#' then .comment i else scanLine fresh (i + 1) cs
    | .escaped => scanLine .plain (i + 1) cs
    | .weak true => scanLine (.weak false) (i + 1) cs
    | .weak false =>
      scanLine (if c = '\\' then .weak true else if c = '\x22' then .plain else .weak false)
        (i + 1) cs
    | .strong true => scanLine (.strong false) (i + 1) cs
    | .strong false =>
      scanLine (if c = '\\' then .strong true else if c = '\x27' then .plain else .strong false)
        (i + 1) cs

/-- A line without its line end. -/
def dropLineEnd (cs : List Char) : List Char :=
  match cs.reverse with
  | '\n' :: '\r' :: rest => rest.reverse
  | '\n' :: rest => rest.reverse
  | _ => cs

/-- Joins lines as long as a quote is open. `none` is a place where no line can be read; nothing is
read after it. -/
def logicalLines (buffer : List Char) (s : Scan) : List (Option (List Char)) →
    List (Option (List Char))
  | [] => if s = .plain then [] else [none]
  | none :: _ => [none]
  | some line :: rest =>
    let joined := buffer ++ line
    if (Text.dropBlank joined).head? = some '#' then some [] :: logicalLines [] .plain rest
    else match scanLine s 0 line with
      | .comment n => some (buffer ++ line.take n) :: logicalLines [] .plain rest
      | .state .plain => some (dropLineEnd joined) :: logicalLines [] .plain rest
      | .state s => logicalLines joined s rest

/-- The lines of a file, each with its line end; `none` for one that is not text. -/
def rawLines (current : Bytes) : Bytes → List (Option (List Char))
  | [] => if current.isEmpty then [] else [(Bytes.toText? current.reverse).map String.toList]
  | b :: bs =>
    if b = 0x0A then (Bytes.toText? (b :: current).reverse).map String.toList :: rawLines [] bs
    else rawLines (b :: current) bs

/-! ## References -/

/-- What references are looked up in: the environment first, then the lines before. -/
structure Scope where
  env : Env
  earlier : List (String × String)

/-- The value of a referenced variable; empty if there is none. -/
def Scope.value (s : Scope) (name : String) : List Char :=
  match s.env.get? name with
  | some v => v.toList
  | none => (((s.earlier.find? (·.1 = name)).map (·.2)).getD "").toList

/-! ## Values -/

/-- A reference that is being read. -/
inductive Reference where
  | none
  | bare
  | braced
deriving DecidableEq

/-- The state of reading a value. -/
structure ValueState where
  strong : Bool
  weak : Bool
  escaped : Bool
  ending : Bool
  reference : Reference
  /-- The name of the reference so far, in reverse. -/
  name : List Char
  /-- The value so far, in reverse. -/
  output : List Char

namespace ValueState

/-- Nothing read yet. -/
def start : ValueState := ⟨false, false, false, false, .none, [], []⟩

/-- Adds a character to the value. -/
def push (s : ValueState) (c : Char) : ValueState :=
  { s with output := c :: s.output }

/-- Puts the referenced value in the place of the reference. -/
def apply (scope : Scope) (s : ValueState) : ValueState :=
  { s with
    output := (scope.value (String.ofList s.name.reverse)).reverse ++ s.output
    name := [] }

/-- A character of a reference. -/
def stepReference (scope : Scope) (s : ValueState) (c : Char) : ValueState :=
  if Text.isLetterOrDigit c then { s with name := c :: s.name }
  else if s.reference = .bare then
    if c = '\x7b' && s.name.isEmpty then { s with reference := .braced }
    else
      let s := s.apply scope
      if c = '$' then { s with reference := .bare } else ({ s with reference := .none }).push c
  else if c = '\x7d' then ({ s with reference := .none }).apply scope
  else { s with name := c :: s.name }

/-- A character of a value; `none` if it may not stand there. -/
def step? (scope : Scope) (s : ValueState) (c : Char) : Option ValueState :=
  if s.escaped then
    let s := { s with escaped := false }
    if c = '\\' || c = '\x27' || c = '\x22' || c = '$' || c = ' ' then some (s.push c)
    else if c = 'n' then some (s.push '\n')
    else none
  else if s.strong then some (if c = '\x27' then { s with strong := false } else s.push c)
  else if s.reference ≠ .none then some (s.stepReference scope c)
  else if c = '$' then some { s with reference := .bare }
  else if s.weak then
    some (if c = '\x22' then { s with weak := false }
      else if c = '\\' then { s with escaped := true } else s.push c)
  else if c = '\x27' then some { s with strong := true }
  else if c = '\x22' then some { s with weak := true }
  else if c = '\\' then some { s with escaped := true }
  else if c = ' ' || c = '\t' then some { s with ending := true }
  else some (s.push c)

end ValueState

/-- The value at its end, unless a quote or a brace is still open. -/
def ValueState.finish? (scope : Scope) (s : ValueState) : Option String :=
  if s.reference = .braced || s.strong || s.weak then none
  else some (String.ofList (s.apply scope).output.reverse)

/-- Reads a value. After a blank outside of quotes only blanks or a comment may follow. -/
def value? (scope : Scope) (s : ValueState) : List Char → Option String
  | [] => s.finish? scope
  | c :: cs =>
    if s.ending then
      if c = ' ' || c = '\t' then value? scope s cs
      else if c = '#' then s.finish? scope
      else none
    else match s.step? scope c with
      | some s => value? scope s cs
      | none => none

/-! ## Assignments -/

/-- The name that a line begins with. -/
def name? (cs : List Char) : Option (String × List Char) :=
  match cs with
  | c :: _ =>
    if c.isAlpha || c = '_' then
      let name := cs.takeWhile fun c => c.isAlphanum || c = '_' || c = '.'
      some (String.ofList name, cs.drop name.length)
    else none
  | [] => none

/-- What follows an equals sign. -/
def equals? : List Char → Option (List Char)
  | '=' :: cs => some cs
  | _ => none

/-- The name that a line assigns to and what follows the equals sign. The word `export` may stand
before the name, and may itself be the name. -/
def target? (cs : List Char) : Option (String × List Char) := do
  let (name, rest) ← name? cs
  let rest := Text.dropBlank rest
  match equals? rest with
  | some rest => some (name, rest)
  | none =>
    if name = "export" then do
      let (name, rest) ← name? rest
      let rest ← equals? (Text.dropBlank rest)
      some (name, rest)
    else none

/-- What a logical line says. -/
inductive Line where
  | nothing
  | assignment (name value : String)
  | malformed

/-- Reads a logical line. -/
def Line.read (scope : Scope) (line : List Char) : Line :=
  let cs := Text.trimChars line
  if cs.isEmpty || cs.head? = some '#' then .nothing
  else match target? cs with
    | none => .malformed
    | some (name, rest) =>
      let rest := Text.dropBlank rest
      if rest.isEmpty || rest.head? = some '#' then .assignment name ""
      else match value? scope .start rest with
        | some v => .assignment name v
        | none => .malformed

/-- Applies logical lines to an environment; also whether none was malformed. -/
def applyLines (scope : Scope) : List (Option (List Char)) → Env × Bool
  | [] => (scope.env, true)
  | none :: _ => (scope.env, false)
  | some line :: rest =>
    match Line.read scope line with
    | .nothing => applyLines scope rest
    | .malformed => (scope.env, false)
    | .assignment name v =>
      applyLines ⟨scope.env.insertNew name v, (name, v) :: scope.earlier⟩ rest

/-- The octets of the mark that may stand before a text. -/
def byteOrderMark : Bytes := [0xEF, 0xBB, 0xBF]

/-- Applies a file to an environment; also whether no line of it was malformed. -/
def load (env : Env) (file : Bytes) : Env × Bool :=
  let file := if file.take 3 = byteOrderMark then file.drop 3 else file
  applyLines ⟨env, []⟩ (logicalLines [] .plain (rawLines [] file))

end BuildBroker.Dotenv
