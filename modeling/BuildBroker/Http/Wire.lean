import BuildBroker.Http.Message
import BuildBroker.Http.Status
import BuildBroker.Text.Natural

/-!
# Messages on a Connection

How messages are read from the octets of a connection, and how they are written to it. Octets come
in pieces, so reading may find that a message has not come to its end yet.

Main statement: what is left after a line is shorter than what it was read from
(`length_of_splitLine?`).
-/

namespace BuildBroker.Http

/-- What reading something from the octets of a connection comes to. -/
inductive Taken (α : Type) where
  /-- More octets have to come. -/
  | unfinished
  | malformed
  /-- It was read; also what follows it. -/
  | taken (a : α) (rest : Bytes)

namespace Taken

variable {α β : Type}

/-- Reads on after something. -/
def andThen (x : Taken α) (f : α → Bytes → Taken β) : Taken β :=
  match x with
  | unfinished => unfinished
  | malformed => malformed
  | taken a rest => f a rest

/-- The same for another value. -/
def map (f : α → β) (x : Taken α) : Taken β :=
  x.andThen fun a rest => taken (f a) rest

/-- A value that has to be there. -/
def ofOption (a : Option α) (rest : Bytes) : Taken α :=
  match a with
  | some a => taken a rest
  | none => malformed

end Taken

/-- A request as it was read from a connection. -/
structure Arrival where
  request : Request
  /-- The digit after the point of the version. -/
  minor : Nat

namespace Wire

/-- The line that octets begin with, without its end, and what follows it. -/
def splitLine? : Bytes → Option (Bytes × Bytes)
  | [] => none
  | 0x0D :: 0x0A :: rest => some ([], rest)
  | 0x0A :: rest => some ([], rest)
  | b :: rest => (splitLine? rest).map fun (line, rest) => (b :: line, rest)

/-- What follows a line is shorter than what it began. -/
theorem length_of_splitLine? {b line rest : Bytes} (h : splitLine? b = some (line, rest)) :
    rest.length < b.length := by
  induction b using splitLine?.induct generalizing line with
  | case1 => simp [splitLine?] at h
  | case2 after =>
    obtain ⟨_, rfl⟩ : [] = line ∧ after = rest := by simpa [splitLine?] using h
    simp only [List.length_cons]
    omega
  | case3 after =>
    obtain ⟨_, rfl⟩ : [] = line ∧ after = rest := by simpa [splitLine?] using h
    simp only [List.length_cons]
    omega
  | case4 b after h1 h2 ih =>
    rw [splitLine?] at h
    · obtain ⟨⟨l, r⟩, hl, hr⟩ := Option.map_eq_some_iff.1 h
      simp only [Prod.mk.injEq] at hr
      have := ih (hr.2 ▸ hl)
      simp only [List.length_cons]
      omega
    · exact h1
    · exact h2

/-- The octets without blanks at both ends. -/
def trimBlanks (b : Bytes) : Bytes :=
  let blank (x : UInt8) : Bool := x = 0x20 || x = 0x09
  ((b.dropWhile blank).reverse.dropWhile blank).reverse

/-- A header line. -/
def readHeader? (line : Bytes) : Option Header :=
  let name := line.takeWhile (· ≠ 0x3A)
  match line.drop name.length, Bytes.toText? name with
  | _ :: value, some name => Header.ofParts? name (trimBlanks value)
  | _, _ => none

/-- A line without its end. -/
def takeLine (b : Bytes) : Taken Bytes :=
  match splitLine? b with
  | some (line, rest) => .taken line rest
  | none => .unfinished

/-- The header lines up to the empty one. -/
def takeHeaders (b : Bytes) : Taken Headers :=
  match _h : splitLine? b with
  | none => .unfinished
  | some ([], rest) => .taken [] rest
  | some (line, rest) =>
    match readHeader? line with
    | none => .malformed
    | some header => (takeHeaders rest).map (header :: ·)
termination_by b.length
decreasing_by exact length_of_splitLine? (by assumption)

/-- The number after the point of a version that is understood. -/
def readVersion? (word : Bytes) : Option Nat :=
  if word = Bytes.ofText "HTTP/1.1" then some 1
  else if word = Bytes.ofText "HTTP/1.0" then some 0
  else none

/-- The words of a line. -/
def splitWords : Bytes → List Bytes
  | [] => [[]]
  | b :: rest =>
    match splitWords rest with
    | [] => [[b]]
    | word :: words => if b = 0x20 then [] :: word :: words else (b :: word) :: words

/-! ## Bodies -/

/-- How the end of a body is found. -/
inductive Extent where
  /-- After so many octets. -/
  | octets (n : Nat)
  /-- The body comes in chunks, of which the last one is empty. -/
  | chunks
  /-- Nothing is said about it. -/
  | untold
deriving DecidableEq, Repr

/-- A text in lower case. -/
def lower (s : String) : String :=
  String.ofList (s.toList.map Char.toLower)

/-- What headers say about the end of the body; `none` if they make no sense. -/
def extent? (hs : Headers) : Option Extent :=
  if (hs.text? "transfer-encoding").map lower = some "chunked" then some .chunks
  else match hs.text? "content-length" with
    | some t => (Text.readDigits? 10 t.toList).map .octets
    | none => some .untold

/-- So many octets. -/
def takeOctets (n : Nat) (b : Bytes) : Taken Bytes :=
  if b.length < n then .unfinished else .taken (b.take n) (b.drop n)

/-- The size in the line before a chunk; what follows a semicolon does not count. -/
def readSize? (line : Bytes) : Option Nat :=
  (Bytes.toText? (trimBlanks (line.takeWhile (· ≠ 0x3B)))).bind fun t =>
    Text.readDigits? 16 t.toList

/-- A body in chunks, with the lines that follow the last one. -/
def takeChunks (b : Bytes) : Taken Bytes :=
  match _h : splitLine? b with
  | none => .unfinished
  | some (line, rest) =>
    match readSize? line with
    | none => .malformed
    | some 0 => (takeHeaders rest).map fun _ => []
    | some n =>
      match _hc : splitLine? (rest.drop n) with
      | none => .unfinished
      | some ([], after) => (takeChunks after).map (rest.take n ++ ·)
      | some _ => .malformed
termination_by b.length
decreasing_by
  have := length_of_splitLine? _h
  have := length_of_splitLine? _hc
  simp only [List.length_drop] at this
  omega

end Wire

open Wire

/-- Reads a request from a connection. A request that says nothing about its body has none. -/
def Arrival.take (b : Bytes) : Taken Arrival :=
  (takeLine b).andThen fun line rest =>
    match splitWords line with
    | [method, target, version] =>
      (Taken.ofOption (readVersion? version) rest).andThen fun minor rest =>
      (takeHeaders rest).andThen fun headers rest =>
      (Taken.ofOption (extent? headers) rest).andThen fun extent rest =>
      let body := match extent with
        | .octets n => takeOctets n rest
        | .chunks => takeChunks rest
        | .untold => .taken [] rest
      body.andThen fun body rest =>
      let request := do
        let method ← Bytes.toText? method
        let target ← Bytes.toText? target
        let request ← Request.ofParts? method target [] (.ofBytes body)
        return { request with headers }
      (Taken.ofOption request rest).map fun request => ⟨request, minor⟩
    | _ => .malformed

/-- Whether a header asks for the end of its connection. -/
def Headers.asksClose (hs : Headers) : Bool :=
  match hs.text? "connection" with
  | some t => t.toList.map Char.toLower = "close".toList
  | none => false

/-- Whether the connection ends after the answer to a request. -/
def Arrival.isLast (a : Arrival) : Bool :=
  a.request.headers.asksClose || a.minor = 0

/-- An answer as a connection shows it. -/
structure Shown where
  minor : Nat
  status : Nat
  words : String
  headers : Headers
  body : Bytes
deriving DecidableEq, Repr

/-- The first line of an answer. -/
def Shown.line (s : Shown) : String :=
  "HTTP/1." ++ toString s.minor ++ " " ++ toString s.status ++ " " ++ s.words

/-- An answer as a connection shows it: with the length of its body, unless nothing of the kind
follows it, and with the end of the connection if that is near. Where only the head is sent its
length says nothing. -/
def Response.shown (r : Response) (minor : Nat) (last head : Bool) (words : Option String) :
    Shown :=
  let headers :=
    if r.status = 101 || head || (r.headers.first? "content-length").isSome then r.headers
    else r.headers ++ [Header.mk "content-length" (Bytes.ofText (toString r.body.length))]
  let headers := if last && minor = 1 then headers.replace "connection" (Bytes.ofText "close")
    else headers
  ⟨minor, r.status, words.getD (statusWord r.status), headers, r.body⟩

/-- The answer to something that is no request. -/
def malformedAnswer : Shown :=
  (Response.bare 400).shown 1 true false none

/-- The end of a line. -/
def lineEnd : String := "\r\n"

/-- Headers as they are sent, with the empty line after them. -/
def Headers.toBytes (hs : Headers) : Bytes :=
  (hs.flatMap fun h => Bytes.ofText (h.name ++ ": ") ++ h.value ++ Bytes.ofText lineEnd)
    ++ Bytes.ofText lineEnd

/-- A request as it is sent. -/
def requestBytes (method target : String) (hs : Headers) (body : Bytes) : Bytes :=
  Bytes.ofText (method ++ " " ++ target ++ " HTTP/1.1" ++ lineEnd) ++ Headers.toBytes hs ++ body

/-- An answer as it is sent. -/
def Shown.toBytes (s : Shown) : Bytes :=
  Bytes.ofText (s.line ++ lineEnd) ++ Headers.toBytes s.headers ++ s.body

end BuildBroker.Http
