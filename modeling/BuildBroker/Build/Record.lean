import BuildBroker.Time.Rfc3339
import BuildBroker.Build.Id
import BuildBroker.Build.Submission
import BuildBroker.Build.Phase
import BuildBroker.Build.Endpoints

/-!
# Build Records

What is known about one build: its submission, when it was made, where it stands, its status once
there is one, and the session endpoints, which documents never show. In a document the fields of the
submission stand beside the record's own, and an unset status is the empty text.
-/

namespace BuildBroker

/-- What is known about one build. -/
structure BuildRecord where
  id : BuildId
  createdAt : Time.Instant
  submission : Submission
  status : Option String
  phase : Phase
  session : Option SessionEndpoints
deriving DecidableEq

namespace BuildRecord

/-- A build that has just been registered. -/
def fresh (id : BuildId) (now : Time.Instant) (s : Submission) : BuildRecord :=
  ⟨id, now, s, none, .created, none⟩

/-- The abort address, if there is one. -/
def abortUrl? (r : BuildRecord) : Option Url :=
  r.session.bind (·.abortUrl)

/-- The address for interactive sessions, if there is one. -/
def hijackUrl? (r : BuildRecord) : Option Url :=
  r.session.bind (·.hijackUrl)

/-- The record as a document. -/
def toValue (r : BuildRecord) : Json.Value :=
  .object ([("guid", r.id.toValue), ("created_at", .string r.createdAt.toText)]
    ++ r.submission.members
    ++ [("status", .string (r.status.getD "")), ("phase", .string r.phase.toText)])

/-! ## Reading -/

/-- Reads a time from a document. -/
def decodeTime (d : Json.Doc) : Json.Decoded Time.Instant := do
  let s ← Json.decodeTextAs "an RFC 3339 formatted date and time string" d
  match Time.Instant.ofText s with
  | .ok i => .ok i
  | .error e => Json.unfit (.refused e.message)

/-- Reads a status: nothing and the empty text are both unset. -/
def decodeStatus (d : Json.Doc) : Json.Decoded (Option String) :=
  (Json.decodeNullable Json.decodeText d).map fun s => s.filter (· ≠ "")

/-- A record that is being read. -/
structure Draft where
  id : Option BuildId
  createdAt : Option Time.Instant
  status : Option (Option String)
  phase : Option Phase

/-- The record's own fields. -/
def ownFields : List (Json.Field Draft) := [
  .storing "guid" true Draft.id (fun s x => { s with id := some x }) BuildId.decode,
  .storing "created_at" true Draft.createdAt (fun s x => { s with createdAt := some x }) decodeTime,
  .storing "status" false Draft.status (fun s x => { s with status := some x }) decodeStatus,
  .storing "phase" false Draft.phase (fun s x => { s with phase := some x }) Phase.decode]

/-- How deeply the value of another field may be nested. -/
def otherDepth : Nat := Json.depthLimit - 1

/-- Reads the record's own fields and sets the others aside; those are kept for later, so they have
to have values. -/
def fillOwn (acc : Draft) : Json.Members → Json.Decoded (Draft × Json.Members)
  | .done => .ok (acc, .done)
  | .cut => .error .broken
  | .member none _ _ => .error .broken
  | .member (some k) d rest =>
    match ownFields.find? (·.name = k) with
    | none => do
      if (d.value? otherDepth).isNone then throw .broken
      let (acc, others) ← fillOwn acc rest
      .ok (acc, .member (some k) d others)
    | some f =>
      if f.filled acc then Json.unfit (.duplicateField k)
      else do
        let acc ← Json.within (.key k) (f.fill acc d)
        fillOwn acc rest

/-- Reads a record from a document: its own fields first, in the order of the text, then those of
the submission. The session is never read. -/
def decode : Json.Doc → Json.Decoded BuildRecord
  | .object members => do
    let (own, others) ← fillOwn ⟨none, none, none, none⟩ members
    let id ← Json.required "guid" own.id
    let createdAt ← Json.required "created_at" own.createdAt
    let submission ← Submission.decode (.object others)
    .ok {
      id, createdAt, submission
      status := own.status.join
      phase := own.phase.getD .created
      session := none }
  | d => Json.mismatch "struct BuildRecord" d

end BuildRecord

end BuildBroker
