import BuildBroker.Build.Delegation
import BuildBroker.Coordinator.Error
import BuildBroker.Executor.Basic
import BuildBroker.Http.Message
import BuildBroker.Text.Base64
import BuildBroker.Url.Percent
import BuildBroker.Url.Reference

/-!
# Asking the Executor

How the broker's requests go out and what their answers mean. An answer that refers to another place
is followed there, a bounded number of times; the request may lose its body on the way. What comes
out in the end decides a delegation, or is passed back to a caller.
-/

namespace BuildBroker.Executor

open Http

/-- A request on its way out. -/
structure Outgoing where
  method : String
  url : Url
  /-- All headers but the one that names the host. -/
  headers : Headers
  body : Bytes
deriving DecidableEq

/-- An answer as it came in. -/
structure Answer where
  status : Nat
  /-- The words after the status. -/
  reason : String
  headers : Headers
  body : Bytes
  /-- Whether the body came to the end that was announced. -/
  complete : Bool
deriving DecidableEq, Repr

/-- What becomes of a request that is sent. -/
inductive Reply where
  | answer (a : Answer)
  /-- Nobody listens there. -/
  | refused
  /-- The connection ended without an answer. -/
  | dropped
  /-- Nothing happens. -/
  | silent
deriving DecidableEq, Repr

/-! ## Requests -/

/-- The host as requests name it: with its port, unless that is the default one. -/
def hostText (u : Url) : String :=
  match u.authority with
  | some a => a.host.toText ++ a.portText
  | none => ""

/-- The headers of a request as they are sent. -/
def Outgoing.allHeaders (o : Outgoing) : Headers :=
  ⟨"host", Bytes.ofText (hostText o.url)⟩ :: o.headers

/-- The text of a part of the user information, if its escapes stand for text. -/
def userPart? (s : String) : Option String :=
  Bytes.toText? (Percent.decode (Bytes.ofText s))

/-- The credentials in the user information of a URL, as a header has them. -/
def credentials? (u : Url) : Option String := do
  let a ← u.authority
  let name ← userPart? a.username
  let password := if a.password = "" then none else userPart? a.password
  if name = "" && password.isNone then none
  else some ("Basic " ++ Base64.encode (Bytes.ofText (name ++ ":" ++ password.getD "")))

/-- A URL without its user information. -/
def withoutUser (u : Url) : Url :=
  { u with authority := u.authority.map fun a => { a with username := "", password := "" } }

/-- A request to a URL; user information becomes a header. -/
def Outgoing.make (method : String) (u : Url) (headers : Headers) (body : Bytes) : Outgoing :=
  match credentials? u with
  | some c => ⟨method, withoutUser u, ⟨"authorization", Bytes.ofText c⟩ :: headers, body⟩
  | none => ⟨method, u, headers, body⟩

/-- The request that delegates a build. -/
def Outgoing.ofDelegation (builds : Url) (d : Delegation) : Outgoing :=
  .make "POST" builds [⟨"content-type", Bytes.ofText Response.jsonType⟩] d.toValue.toBytes

/-- The request that passes a caller's request on. -/
def Outgoing.ofRelay (r : RelayRequest) : Outgoing :=
  .make r.method r.url (r.contentType.map fun t => Header.mk "content-type" (Bytes.ofText t)).toList
    r.body

/-! ## Answers that refer to another place -/

/-- Whether a status says that the answer is to be had elsewhere. -/
def isRedirect (status : Nat) : Bool :=
  [301, 302, 303, 307, 308].contains status

/-- Whether requests can be sent by the scheme. -/
def isWebScheme (scheme : String) : Bool :=
  scheme = "http" || scheme = "https"

/-- Whether two URLs lead to the same party. -/
def sameParty (u v : Url) : Bool :=
  u.host? = v.host? && u.effectivePort? = v.effectivePort?

/-- Where a request came from, as a later one tells it; not told where it could be overheard. -/
def referrer? (next previous : Url) : Option Header :=
  if next.scheme = "http" && previous.scheme = "https" then none
  else
    let u : Url := { withoutUser previous with fragment := none }
    some ⟨"referer", Bytes.ofText u.toText⟩

/-- Whether a status turns a request by a method into one that only asks. -/
def turnsToGet (status : Nat) (method : String) : Bool :=
  ((status = 301 || status = 302) && method = "POST") || (status = 303 && method ≠ "HEAD")

/-- Whether a status takes the body from a request by a method. -/
def dropsBody (status : Nat) (method : String) : Bool :=
  turnsToGet status method || status = 303

/-- The same request to another place. Credentials are not shown to another party. -/
def Outgoing.moveTo (o : Outgoing) (status : Nat) (u : Url) : Outgoing :=
  let headers := if dropsBody status o.method then o.headers.without "content-type" else o.headers
  let headers := if sameParty u o.url then headers else headers.without "authorization"
  let headers := headers.without "referer" ++ (referrer? u o.url).toList
  { method := if turnsToGet status o.method then "GET" else o.method
    url := u
    headers
    body := if dropsBody status o.method then [] else o.body }

/-- What an answer makes of its request. -/
inductive Next where
  /-- The answer stands. -/
  | stay
  /-- The answer leads to another request. -/
  | follow (o : Outgoing)
  /-- The answer leads to a place where no request can be sent. -/
  | astray
deriving DecidableEq

/-- The reference in an answer that is to be had elsewhere. -/
def Answer.reference? (a : Answer) : Option Reference :=
  if isRedirect a.status then
    ((a.headers.first? "location").bind Bytes.toText?).bind Reference.ofText?
  else none

/-- What an answer makes of its request; an answer without a proper reference stands. -/
def next (o : Outgoing) (a : Answer) : Next :=
  match a.reference? with
  | none => .stay
  | some r =>
    match r.resolve? o.url with
    | none => .astray
    | some u => if isWebScheme u.scheme then .follow (o.moveTo a.status u) else .astray

/-- How many references are followed. -/
def followLimit : Nat := 10

/-- What comes of a request in the end. -/
inductive Outcome where
  | answer (a : Answer)
  /-- No answer can come any more. -/
  | failed
  /-- No answer comes. -/
  | silent
deriving DecidableEq, Repr

/-- What a reply makes of its request. -/
inductive Turn where
  | settled (x : Outcome)
  /-- The answer is to be had by another request. -/
  | onward (o : Outgoing)
deriving DecidableEq

/-- What a reply makes of its request. -/
def turn (o : Outgoing) : Reply → Turn
  | .refused | .dropped => .settled .failed
  | .silent => .settled .silent
  | .answer a =>
    match next o a with
    | .stay => .settled (.answer a)
    | .astray => .settled .failed
    | .follow o => .onward o

/-- Sends a request and follows the references in the answers; also all requests that were sent. -/
def follow (send : Outgoing → Reply) : (limit : Nat) → Outgoing → List Outgoing × Outcome
  | limit, o =>
    match turn o (send o), limit with
    | .settled x, _ => ([o], x)
    | .onward _, 0 => ([o], .failed)
    | .onward o', limit + 1 =>
      let (sent, outcome) := follow send limit o'
      (o :: sent, outcome)

/-- Sends a request, if one can be sent there at all. -/
def exchange (send : Outgoing → Reply) (o : Outgoing) : List Outgoing × Outcome :=
  if isWebScheme o.url.scheme then follow send followLimit o else ([], .failed)

/-! ## What answers mean -/

/-- The endpoints in the answer that a build has been taken: none if the body holds none. -/
def acceptedEndpoints (body : Bytes) : SessionEndpoints :=
  if body.all Bytes.isAsciiBlank then .none
  else (Json.decodeBytes SessionEndpoints.decodeAcceptance body).toOption.getD .none

/-- The status of the answer that a build has been taken. -/
def createdStatus : Nat := 201

/-- What the answer to a delegation means. An answer whose body broke off means nothing. -/
def Answer.verdict (a : Answer) : Except ExecutorError SessionEndpoints :=
  if !a.complete then .error (.unreachable none)
  else if a.status = createdStatus then .ok (acceptedEndpoints a.body)
  else .error (.rejected a.status)

/-- What is passed back of an answer. -/
def Answer.relayed (a : Answer) : Except ExecutorError RelayAnswer :=
  if !a.complete then .error (.unreachable none)
  else .ok ⟨a.status, a.headers.text? "content-type", a.body⟩

/-- What comes of a request, in a given reading of answers; nothing yet while no answer comes. -/
def Outcome.read? {α : Type} (read : Answer → Except ExecutorError α) :
    Outcome → Option (Except ExecutorError α)
  | .answer a => some (read a)
  | .failed => some (.error (.unreachable none))
  | .silent => none

/-! ## Questions -/

/-- Sends a request and reads what comes of it; also all requests that were sent. -/
def consult {α : Type} (read : Answer → Except ExecutorError α) (o : Outgoing)
    (send : Outgoing → Reply) : List Outgoing × Option (Except ExecutorError α) :=
  let (sent, outcome) := exchange send o
  (sent, outcome.read? read)

/-- Delegates a build at the address for builds. -/
def submit (builds : Url) (d : Delegation) :
    (Outgoing → Reply) → List Outgoing × Option (Except ExecutorError SessionEndpoints) :=
  consult Answer.verdict (.ofDelegation builds d)

/-- Passes a caller's request on. -/
def relay (r : RelayRequest) :
    (Outgoing → Reply) → List Outgoing × Option (Except ExecutorError RelayAnswer) :=
  consult Answer.relayed (.ofRelay r)

end BuildBroker.Executor
