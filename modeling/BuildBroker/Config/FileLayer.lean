import BuildBroker.Toml.Statement
import BuildBroker.Json.Value

/-!
# Settings from a File

A settings file has three sections with two entries each, at most. A section may be opened by a
header, assigned as an inline table, or built up by keys with a point, but only in one of these
ways; an entry may be given once. Anything else in the file makes it invalid.
-/

namespace BuildBroker.Config

/-- What a settings file says. -/
structure FileLayer where
  listen : Option String
  peer : Option String
  executorUrl : Option String
  executorTimeout : Option Nat
  fetchTimeout : Option Nat
  pickupTimeout : Option Nat
deriving DecidableEq, Inhabited

namespace FileLayer

/-- A file that says nothing. -/
def empty : FileLayer := ⟨none, none, none, none, none, none⟩

/-- The sections of a settings file. -/
inductive Section where
  | server
  | executor
  | bits
deriving DecidableEq, Repr

/-- The section of a name. -/
def section? (name : String) : Option Section :=
  if name = "server" then some .server
  else if name = "executor" then some .executor
  else if name = "bits" then some .bits
  else none

/-- How a section was opened. -/
inductive Opening where
  | byHeader
  | byTable
  | byKeys
deriving DecidableEq, Repr

/-- A file that is being read: what it has said, which sections are open and how, and the section of
the last header. -/
structure Reading where
  layer : FileLayer
  opened : List (Section × Opening)
  current : Option Section

/-- How a section was opened, if it was. -/
def Reading.opening? (r : Reading) (s : Section) : Option Opening :=
  (r.opened.find? (·.1 = s)).map (·.2)

/-- Marks a section as opened. -/
def Reading.openAs (r : Reading) (s : Section) (o : Opening) : Reading :=
  { r with opened := (s, o) :: r.opened }

/-- Gives a text once. -/
def textOnce? (old : Option String) : Toml.Scalar → Option (Option String)
  | .text s => if old.isNone then some (some s) else none
  | .integer _ => none

/-- Gives a count once. -/
def countOnce? (old : Option Nat) : Toml.Scalar → Option (Option Nat)
  | .text _ => none
  | .integer n =>
    if old.isNone && 0 ≤ n && n < Text.counterLimit then some (some n.toNat) else none

/-- Gives an entry of a section its value. -/
def set? (l : FileLayer) (s : Section) (name : String) (v : Toml.Scalar) : Option FileLayer :=
  match s with
  | .server =>
    if name = "listen_addr" then (textOnce? l.listen v).map fun x => { l with listen := x }
    else if name = "peer_addr" then (textOnce? l.peer v).map fun x => { l with peer := x }
    else none
  | .executor =>
    if name = "url" then (textOnce? l.executorUrl v).map fun x => { l with executorUrl := x }
    else if name = "timeout_ms" then
      (countOnce? l.executorTimeout v).map fun x => { l with executorTimeout := x }
    else none
  | .bits =>
    if name = "fetch_timeout_ms" then
      (countOnce? l.fetchTimeout v).map fun x => { l with fetchTimeout := x }
    else if name = "pickup_timeout_ms" then
      (countOnce? l.pickupTimeout v).map fun x => { l with pickupTimeout := x }
    else none

/-- Gives the entries of an inline table their values. -/
def setAll? (l : FileLayer) (s : Section) : List (List String × Toml.Scalar) → Option FileLayer
  | [] => some l
  | ([name], v) :: rest => (l.set? s name v).bind fun l => setAll? l s rest
  | _ => none

/-- Reads one statement. -/
def Reading.step? (r : Reading) : Toml.Statement → Option Reading
  | .header [name] => do
    let s ← section? name
    if (r.opening? s).isSome then none
    else some { r.openAs s .byHeader with current := some s }
  | .assign key value =>
    match r.current, key, value with
    | some s, [name], .scalar v => (r.layer.set? s name v).map fun l => { r with layer := l }
    | none, [section_, name], .scalar v => do
      let s ← section? section_
      let l ← r.layer.set? s name v
      match r.opening? s with
      | none => some { r.openAs s .byKeys with layer := l }
      | some .byKeys => some { r with layer := l }
      | some _ => none
    | none, [name], .table entries => do
      let s ← section? name
      if (r.opening? s).isSome then none
      else
        let l ← r.layer.setAll? s entries
        some { r.openAs s .byTable with layer := l }
    | _, _, _ => none
  | .header _ => none

/-- What the text of a settings file says, if the text is valid. -/
def ofText? (text : String) : Option FileLayer := do
  let ss ← Toml.ofText? text
  let r ← ss.foldlM Reading.step? ⟨empty, [], none⟩
  some r.layer

/-- The members for the entries that are given. -/
def given (entries : List (String × Option Json.Value)) : Json.Value :=
  .object (entries.filterMap fun e => e.2.map fun v => (e.1, v))

/-- What the file says as a document; entries that are not given are left out. -/
def toValue (l : FileLayer) : Json.Value :=
  .object [
    ("server", given [("listen_addr", l.listen.map .string), ("peer_addr", l.peer.map .string)]),
    ("executor", given [("url", l.executorUrl.map .string),
      ("timeout_ms", l.executorTimeout.map .ofNat)]),
    ("bits", given [("fetch_timeout_ms", l.fetchTimeout.map .ofNat),
      ("pickup_timeout_ms", l.pickupTimeout.map .ofNat)])]

end FileLayer

end BuildBroker.Config
