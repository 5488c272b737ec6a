import BuildBroker.Text.Quoted
import BuildBroker.Json.Reader

/-!
# Decoding JSON

A decoder turns a document into a value of some type. Decoders walk the document in the order of its
text and report the first thing that is wrong, be it that the text is no JSON there or that a part
does not fit.

A record with named fields is described once, by a `RecordShape`, and can then be read from an
object (fields by name, in any order, unknown ones skipped) or from an array (fields by position).
-/

namespace BuildBroker.Json

/-- What was found where something else was expected. -/
inductive Found where
  | null
  | bool (b : Bool)
  | number (n : Number)
  | string (s : String)
  | sequence
  | map

/-- Why a part of a document does not fit its type. -/
inductive Problem where
  | invalidType (found : Found) (expected : String)
  | missingField (name : String)
  | duplicateField (name : String)
  | unknownVariant (name : String) (known : List String)
  | invalidLength (length : Nat) (expected : String)
  /-- A text that its own format refuses. -/
  | refused (reason : String)

/-- One step from a value into a part of it. -/
inductive Step where
  | key (name : String)
  | index (i : Nat)
deriving DecidableEq

/-- Why a document has no value of a type. -/
inductive DecodeError where
  /-- The text is not JSON. -/
  | broken
  /-- The part at the end of the path does not fit. -/
  | unfit (path : List Step) (problem : Problem)

/-- The outcome of decoding. -/
abbrev Decoded (α : Type) := Except DecodeError α

/-! ## Wording -/

/-- A text between backticks. -/
def ticked (s : String) : String :=
  "`" ++ s ++ "`"

/-- The words for what was found. -/
def Found.describe : Found → String
  | .null => "null"
  | .bool b => "boolean " ++ ticked (if b then "true" else "false")
  | .number (.real n s e) => "floating point " ++ ticked (Number.real n s e).render
  | .number n => "integer " ++ ticked n.render
  | .string s => "string " ++ Text.quote s
  | .sequence => "sequence"
  | .map => "map"

/-- The words for a problem. -/
def Problem.message : Problem → String
  | .invalidType found expected => "invalid type: " ++ found.describe ++ ", expected " ++ expected
  | .missingField name => "missing field " ++ ticked name
  | .duplicateField name => "duplicate field " ++ ticked name
  | .unknownVariant name known =>
    "unknown variant " ++ ticked name ++ ", expected one of " ++ ", ".intercalate (known.map ticked)
  | .invalidLength length expected =>
    "invalid length " ++ toString length ++ ", expected " ++ expected
  | .refused reason => reason

/-- The text of a path: names are joined by dots, positions stand in brackets. -/
def renderPath : List Step → String
  | [] => ""
  | .key name :: [] => name
  | .key name :: .index i :: rest => name ++ renderPath (.index i :: rest)
  | .key name :: rest => name ++ "." ++ renderPath rest
  | .index i :: [] => "[" ++ toString i ++ "]"
  | .index i :: .index j :: rest => "[" ++ toString i ++ "]" ++ renderPath (.index j :: rest)
  | .index i :: rest => "[" ++ toString i ++ "]." ++ renderPath rest

/-! ## Simple values -/

/-- Places an error one step further in. -/
def within (step : Step) {α : Type} : Decoded α → Decoded α
  | .error (.unfit path p) => .error (.unfit (step :: path) p)
  | r => r

/-- Reports a problem with the value itself. -/
def unfit {α : Type} (p : Problem) : Decoded α :=
  .error (.unfit [] p)

/-- What a document is, where it is not what was expected; reading it may show that it is broken. -/
def Doc.found : Doc → Decoded Found
  | .null => .ok .null
  | .bool b => .ok (.bool b)
  | .number n => if n.isInRange then .ok (.number n) else .error .broken
  | .string (some s) => .ok (.string s)
  | .string none => .error .broken
  | .array _ => .ok .sequence
  | .object _ => .ok .map
  | .broken => .error .broken

/-- Reports a document of the wrong kind. -/
def mismatch {α : Type} (expected : String) (d : Doc) : Decoded α := do
  let found ← d.found
  unfit (.invalidType found expected)

/-- A text, described as `expected` where it is something else. -/
def decodeTextAs (expected : String) : Doc → Decoded String
  | .string (some s) => .ok s
  | d => mismatch expected d

/-- A text. -/
def decodeText : Doc → Decoded String :=
  decodeTextAs "a string"

/-- A value that may be null. -/
def decodeNullable {α : Type} (decode : Doc → Decoded α) : Doc → Decoded (Option α)
  | .null => .ok none
  | d => (decode d).map some

/-- The items of an array, each decoded in turn; positions are counted from `i`. -/
def decodeItems {α : Type} (decode : Doc → Decoded α) (i : Nat) : Items → Decoded (List α)
  | .done => .ok []
  | .cut => .error .broken
  | .item d rest => do
    let a ← within (.index i) (decode d)
    let as ← decodeItems decode (i + 1) rest
    .ok (a :: as)

/-- An array of values of one type. -/
def decodeList {α : Type} (decode : Doc → Decoded α) : Doc → Decoded (List α)
  | .array items => decodeItems decode 0 items
  | d => mismatch "a sequence" d

/-- The members of an object as pairs, in their order. -/
def decodePairs {α : Type} (decode : Doc → Decoded α) : Members → Decoded (List (String × α))
  | .done => .ok []
  | .cut => .error .broken
  | .member none _ _ => .error .broken
  | .member (some k) d rest => do
    let a ← within (.key k) (decode d)
    let as ← decodePairs decode rest
    .ok ((k, a) :: as)

/-- An object as pairs of a name and a value of one type. -/
def decodeMap {α : Type} (decode : Doc → Decoded α) : Doc → Decoded (List (String × α))
  | .object members => decodePairs decode members
  | d => mismatch "a map" d

/-! ## Records -/

/-- One field of a record that is being read: `σ` holds what has been read so far. A `positional`
field must be there when the record is given by position. -/
structure Field (σ : Type) where
  name : String
  positional : Bool
  filled : σ → Bool
  fill : σ → Doc → Decoded σ

/-- A field whose value is decoded and then stored. -/
def Field.storing {σ β : Type} (name : String) (positional : Bool) (get : σ → Option β)
    (set : σ → β → σ) (decode : Doc → Decoded β) : Field σ :=
  { name, positional
    filled := fun acc => (get acc).isSome
    fill := fun acc d => (decode d).map (set acc) }

/-- How a record is read: its fields in order, and what is made of them in the end. -/
structure RecordShape (σ α : Type) where
  name : String
  fields : List (Field σ)
  start : σ
  finish : σ → Decoded α

namespace RecordShape

variable {σ α : Type}

/-- The words for the record as something expected. -/
def expected (shape : RecordShape σ α) : String :=
  "struct " ++ shape.name

/-- The words for the record given by position. -/
def expectedLength (shape : RecordShape σ α) : String :=
  shape.expected ++ " with " ++ toString shape.fields.length ++
    (if shape.fields.length = 1 then " element" else " elements")

/-- Reads the members of an object into the fields of their names. -/
def fillMembers (shape : RecordShape σ α) (acc : σ) : Members → Decoded σ
  | .done => .ok acc
  | .cut => .error .broken
  | .member none _ _ => .error .broken
  | .member (some k) d rest =>
    match shape.fields.find? (·.name = k) with
    | none => if d.intact then fillMembers shape acc rest else .error .broken
    | some f =>
      if f.filled acc then unfit (.duplicateField k)
      else do
        let acc ← within (.key k) (f.fill acc d)
        fillMembers shape acc rest

/-- Reads the items of an array into the fields in order; `i` counts the fields so far. -/
def fillItems (shape : RecordShape σ α) (i : Nat) (acc : σ) : List (Field σ) → Items → Decoded σ
  | [], .done => .ok acc
  | [], _ => .error .broken
  | _ :: _, .cut => .error .broken
  | f :: fs, .done =>
    if f.positional then unfit (.invalidLength i shape.expectedLength)
    else fillItems shape (i + 1) acc fs .done
  | f :: fs, .item d rest => do
    let acc ← within (.index i) (f.fill acc d)
    fillItems shape (i + 1) acc fs rest

/-- Reads a record from an object or an array. -/
def decode (shape : RecordShape σ α) : Doc → Decoded α
  | .object members => do shape.finish (← shape.fillMembers shape.start members)
  | .array items => do shape.finish (← shape.fillItems 0 shape.start shape.fields items)
  | d => mismatch shape.expected d

end RecordShape

/-- The value of a field that has to be given. -/
def required {α : Type} (name : String) : Option α → Decoded α
  | some a => .ok a
  | none => unfit (.missingField name)

/-- Decodes a whole text: nothing but blanks may follow the value. -/
def decodeBytes {α : Type} (decode : Doc → Decoded α) (b : Bytes) : Decoded α := do
  let t := Reading.ofBytes b
  let a ← decode t.doc
  if t.ended then .ok a else .error .broken

end BuildBroker.Json
