import BuildBroker.Bits.Body
import BuildBroker.Http.Target
import BuildBroker.Json.Value

/-!
# Requests and Responses

The messages between a caller and the broker. Header names are kept in lower case; of several
headers with one name the first one counts.
-/

namespace BuildBroker.Http

/-- A header: its name in lower case, and its value. -/
structure Header where
  name : String
  value : Bytes
deriving DecidableEq, Repr

/-- Headers in the order in which they were sent. -/
abbrev Headers := List Header

/-- Whether an octet may stand in a method or a header name. -/
def isTokenByte (b : UInt8) : Bool :=
  let c := Char.ofNat b.toNat
  (c.isAlphanum && b < 0x80) || "!#$%&\x27*+-.^_\x60|~".toList.contains c

/-- Whether an octet may stand in a header value. -/
def isValueByte (b : UInt8) : Bool :=
  (0x20 ≤ b && b ≠ 0x7F) || b = 0x09

/-- Whether an octet of a header value is text. -/
def isTextByte (b : UInt8) : Bool :=
  (0x20 ≤ b && b < 0x7F) || b = 0x09

/-- A header, if its name and its value are legal. -/
def Header.ofParts? (name : String) (value : Bytes) : Option Header :=
  let n := Bytes.ofText name
  if !n.isEmpty && n.all isTokenByte && value.all isValueByte then
    some ⟨String.ofList (name.toList.map Char.toLower), value⟩
  else none

namespace Headers

/-- The value of the first header with a name. -/
def first? (hs : Headers) (name : String) : Option Bytes :=
  (hs.find? (·.name = name)).map (·.value)

/-- The value of the first header with a name, if it is text. -/
def text? (hs : Headers) (name : String) : Option String :=
  (hs.first? name).bind fun v => if v.all isTextByte then Bytes.toText? v else none

/-- The headers without those of a name. -/
def without (hs : Headers) (name : String) : Headers :=
  hs.filter (·.name ≠ name)

/-- The headers with exactly one of a name, in the place of the first one there was. -/
def replace (hs : Headers) (name : String) (value : Bytes) : Headers :=
  match hs with
  | [] => [⟨name, value⟩]
  | h :: rest =>
    if h.name = name then ⟨name, value⟩ :: without rest name else h :: replace rest name value

end Headers

/-! ## Messages -/

/-- A request. -/
structure Request where
  method : String
  target : Target
  headers : Headers
  body : Body

/-- A request, if its method, its target and all its headers are legal. -/
def Request.ofParts? (method target : String) (headers : List (String × Bytes)) (body : Body) :
    Option Request := do
  let m := Bytes.ofText method
  if m.isEmpty || !m.all isTokenByte then none
  let target ← Target.ofText? target
  let headers ← headers.mapM fun h => Header.ofParts? h.1 h.2
  some { method, target, headers, body }

/-- A response in one piece. -/
structure Response where
  status : Nat
  headers : Headers
  body : Bytes
deriving DecidableEq, Repr

namespace Response

/-- A response without a body. -/
def bare (status : Nat) : Response := ⟨status, [], []⟩

/-- A response with a type and a body. -/
def typed (status : Nat) (contentType : String) (body : Bytes) : Response :=
  ⟨status, [⟨"content-type", Bytes.ofText contentType⟩], body⟩

/-- The type of JSON documents. -/
def jsonType : String := "application/json"

/-- A document. -/
def json (status : Nat) (v : Json.Value) : Response :=
  typed status jsonType v.toBytes

/-- A plain text. -/
def plain (status : Nat) (text : String) : Response :=
  typed status "text/plain; charset=utf-8" (Bytes.ofText text)

/-- A response with its body left out; its length stays announced. -/
def withoutBody (r : Response) : Response :=
  let headers := if (r.headers.first? "content-length").isSome then r.headers
    else r.headers ++ [⟨"content-length", Bytes.ofText (toString r.body.length)⟩]
  ⟨r.status, headers, []⟩

end Response

/-! ## Bodies -/

/-- The largest body that is collected. -/
def bodyLimit : Nat := 2097152

/-- What collecting a body comes to. -/
inductive Collected where
  | whole (b : Bytes)
  | failed (reason : String)
  | tooLarge
  /-- The body does not end. -/
  | never

/-- Collects the pieces of a body; `chunks` are those so far, in reverse, of `size` octets. -/
def collectItems (endless : Bool) (chunks : List Bytes) (size : Nat) : List BodyItem → Collected
  | [] => if endless then .never else .whole chunks.reverse.flatten
  | .pending :: rest => collectItems endless chunks size rest
  | .failure reason :: _ => .failed reason
  | .chunk b :: rest =>
    let size := size + b.length
    if bodyLimit < size then .tooLarge else collectItems endless (b :: chunks) size rest

/-- Collects a body. -/
def collect (body : Body) : Collected :=
  collectItems body.endless [] 0 body.items

end BuildBroker.Http
