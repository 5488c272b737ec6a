import BuildBroker.Executor.Client
import BuildBroker.Http.Wire

/-!
# Asking over a Connection

How a request to the executor is written to a connection, and how its answer is read. Every request
has a connection of its own, so the end of an answer may be the end of the connection; an answer
that announced more than came is incomplete.
-/

namespace BuildBroker.Executor

open Http Wire

/-- The headers that a request has only on the way: its length, and that nothing follows it. -/
def Outgoing.wireHeaders (o : Outgoing) : Headers :=
  o.allHeaders ++ [⟨"accept", Bytes.ofText "*/*"⟩, ⟨"connection", Bytes.ofText "close"⟩,
    ⟨"content-length", Bytes.ofText (toString o.body.length)⟩]

/-- A request as it is sent. -/
def Outgoing.toBytes (o : Outgoing) : Bytes :=
  requestBytes o.method o.url.target o.wireHeaders o.body

/-- The status in the first line of an answer, and the words after it. -/
def readStatus? (line : Bytes) : Option (Nat × String) :=
  match splitWords line with
  | version :: status :: reason => do
    let _ ← readVersion? version
    let status ← Bytes.toText? status
    let status ← Text.readDigits? 10 status.toList
    let reason ← reason.mapM Bytes.toText?
    return (status, String.intercalate " " reason)
  | _ => none

/-- Whether an answer to a method has no body, whatever its headers say. -/
def isBodiless (method : String) (status : Nat) : Bool :=
  method = "HEAD" || status = 204 || status = 304

/-- Reads an answer to a request by a method; `ended` says that no further octets come. The octets
after the head of an answer that switches protocols are kept as its body. Of a body in chunks
nothing tells any more that it came in chunks. -/
def Answer.take (method : String) (ended : Bool) (b : Bytes) : Taken Answer :=
  (takeLine b).andThen fun line rest =>
  (Taken.ofOption (readStatus? line) rest).andThen fun (status, reason) rest =>
  (takeHeaders rest).andThen fun headers rest =>
  if status = 101 then .taken ⟨status, reason, headers, rest, true⟩ []
  else if isBodiless method status then .taken ⟨status, reason, headers, [], true⟩ rest
  else match extent? headers with
    | none => .malformed
    | some .untold =>
      if ended then .taken ⟨status, reason, headers, rest, true⟩ [] else .unfinished
    | some (.octets n) =>
      match takeOctets n rest with
      | .unfinished =>
        if ended then .taken ⟨status, reason, headers, rest, false⟩ [] else .unfinished
      | body => body.map fun body => ⟨status, reason, headers, body, true⟩
    | some .chunks =>
      let headers := headers.without "transfer-encoding"
      match takeChunks rest with
      | .unfinished =>
        if ended then .taken ⟨status, reason, headers, [], false⟩ [] else .unfinished
      | body => body.map fun body => ⟨status, reason, headers, body, true⟩

/-- What has become of a request when these octets have come back; nothing yet while the answer is
not finished. -/
def Reply.read? (method : String) (ended : Bool) (b : Bytes) : Option Reply :=
  match Answer.take method ended b with
  | .taken a _ => some (.answer a)
  | .malformed => some .dropped
  | .unfinished => if ended then some .dropped else none

end BuildBroker.Executor
