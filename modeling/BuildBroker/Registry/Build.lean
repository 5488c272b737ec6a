import BuildBroker.Bits.Body
import BuildBroker.Build.Delegation
import BuildBroker.Coordinator.Error
import BuildBroker.Log.Channel

/-!
# Registered Builds

Everything that belongs to one build: its record, its log, the place where its bits are handed over,
the uploads that were ever started for it, and the readers of its bits. No operation on one build
touches another one.
-/

namespace BuildBroker

/-- How far an upload has come. -/
inductive UploadStage where
  /-- It is about to claim the build. -/
  | claiming
  /-- It has claimed the build and is about to ask the executor. -/
  | preparing
  /-- It has asked the executor and waits for the answer. -/
  | submitting (d : Delegation)
  /-- The executor has answered. -/
  | answered (d : Delegation) (verdict : Except ExecutorError SessionEndpoints)
  /-- The endpoints of the acceptance have been recorded. -/
  | accepting
  /-- The build has been accepted; the bits are about to be offered. -/
  | offering
  /-- The bits are offered under a ticket. -/
  | delivering (ticket : Nat)
  /-- The bits have been read to their end. -/
  | finishing
  | ended (result : Except CoordinatorError BuildRecord)
  /-- It was given up by its caller; the ticket of its bits if they were offered already. -/
  | dropped (ticket : Option Nat)

/-- A call that uploads bits. -/
structure Upload where
  payload : Payload
  stage : UploadStage

/-- A fetch that has taken bits and reads them. -/
structure Reader where
  /-- The ticket of the delivery that the bits came from. -/
  ticket : Nat
  contentType : Option String
  drain : Drain

/-- Everything that belongs to one build. -/
structure Build where
  record : BuildRecord
  log : Log.Channel
  bits : Rendezvous Payload
  uploads : List Upload
  readers : List Reader

namespace Build

/-- A build that has just been registered. -/
def fresh (record : BuildRecord) : Build :=
  ⟨record, .empty, .empty, [], []⟩

/-- The name of the build. -/
def id (b : Build) : BuildId := b.record.id

/-! ## Changes of the record -/

/-- Sets the status, whatever it was. -/
def setStatus (b : Build) (status : String) : Build :=
  { b with record := { b.record with status := some status } }

/-- Moves the build to a phase; a completed build stays completed. -/
def setPhase (b : Build) (p : Phase) : Build :=
  if b.record.phase = .completed then b else { b with record := { b.record with phase := p } }

/-- Claims the build for an upload: only one that nobody works on may be claimed. -/
def beginDelegation (b : Build) : Except RegistryError Build :=
  if b.record.phase.isClaimable then
    .ok { b with record := { b.record with phase := .bitsPending } }
  else .error (.alreadyDelegated b.id)

/-- Records the session endpoints; only the first ones are kept. -/
def setSession (b : Build) (e : SessionEndpoints) : Except RegistryError Build :=
  if b.record.session.isSome then .error (.sessionAlreadySet b.id)
  else .ok { b with record := { b.record with session := some e } }

/-- Records the result and closes the log, in one step; only the first result is kept. -/
def complete (b : Build) (status : String) : Except RegistryError Build :=
  match b.log.close? with
  | none => .error (.alreadyCompleted b.id)
  | some log =>
    .ok { b with
      log
      record := { b.record with status := some status, phase := .completed } }

/-! ## The log -/

/-- Appends a chunk to the log; refused once it is closed. -/
def append (b : Build) (chunk : Bytes) : Build × Bool :=
  let (log, accepted) := b.log.append chunk
  ({ b with log }, accepted)

/-! ## Uploads -/

/-- Starts an upload. -/
def startUpload (b : Build) (p : Payload) : Build :=
  { b with uploads := b.uploads ++ [⟨p, .claiming⟩] }

/-- Moves an upload on. -/
def setUpload (b : Build) (u : Nat) (s : UploadStage) : Build :=
  { b with uploads := b.uploads.modify u fun x => { x with stage := s } }

/-- What an upload comes to once the fetch that took its bits is done, or none has taken them. -/
def afterDelivery : Rendezvous.DeliverResult → UploadStage
  | .drained .completed => .finishing
  | .drained .interrupted => .ended (.error .bitsInterrupted)
  | .notFetched => .ended (.error .bitsNotFetched)

/-- The next turn of an upload, with the peer address that callbacks go to and the time that the
executor has for picking the bits up; none while it waits. -/
def uploadTurn? (peer : String) (pickup now : Nat) (b : Build) (u : Nat) : Option Build :=
  match b.uploads[u]? with
  | none => none
  | some x =>
    match x.stage with
    | .claiming =>
      match b.beginDelegation with
      | .ok b => some (b.setUpload u .preparing)
      | .error e => some (b.setUpload u (.ended (.error (.registry e))))
    | .preparing =>
      match CallbackUrls.forBuild peer b.id with
      | .error e => some (b.setUpload u (.ended (.error (.internal e.message))))
      | .ok urls =>
        let d := Delegation.ofSubmission b.id b.record.submission urls
        some ((b.setPhase .bitsInFlight).setUpload u (.submitting d))
    | .submitting _ => none
    | .answered _ (.error e) =>
      some ((b.setPhase .rejected).setUpload u (.ended (.error (.executor e))))
    | .answered _ (.ok e) =>
      if e.isEmpty then some (b.setUpload u .accepting)
      else match b.setSession e with
        | .ok b => some (b.setUpload u .accepting)
        | .error e => some (b.setUpload u (.ended (.error (.registry e))))
    | .accepting => some ((b.setPhase .accepted).setUpload u .offering)
    | .offering =>
      let ticket := b.bits.deliveries.length
      some ({ b with bits := b.bits.startDelivery x.payload (now + pickup) }.setUpload u
        (.delivering ticket))
    | .delivering ticket =>
      match b.bits.result? ticket with
      | some r => some (b.setUpload u (afterDelivery r))
      | none => (b.bits.deliveryTurn? now ticket).map fun bits => { b with bits }
    | .finishing =>
      let b := b.setPhase .running
      some (b.setUpload u (.ended (.ok b.record)))
    | .ended _ | .dropped _ => none

/-- The executor answers an upload that waits for it. -/
def answerUpload (b : Build) (u : Nat) (verdict : Except ExecutorError SessionEndpoints) : Build :=
  match b.uploads[u]? with
  | some ⟨_, .submitting d⟩ => b.setUpload u (.answered d verdict)
  | _ => b

/-- Gives up an upload that waits; bits that nobody has taken are withdrawn. -/
def dropUpload (b : Build) (u : Nat) : Build :=
  match b.uploads[u]? with
  | some ⟨_, .submitting _⟩ => b.setUpload u (.dropped none)
  | some ⟨_, .delivering ticket⟩ =>
    if b.bits.deliveryWaits ticket then
      { b with bits := b.bits.cancelDelivery ticket }.setUpload u (.dropped (some ticket))
    else b
  | _ => b

/-! ## Fetches -/

/-- Starts a fetch of the bits. -/
def startFetch (b : Build) (deadline : Nat) : Build :=
  { b with bits := b.bits.startFetch deadline }

/-- The next turn of a fetch; bits that it takes get a reader. -/
def fetchTurn? (now : Nat) (b : Build) (f : Nat) : Option Build :=
  (b.bits.fetchTurn? now f).map fun bits =>
    let readers := match bits.fetchStage? f with
      | some (.took t) =>
        match bits.item? t with
        | some p => b.readers ++ [⟨t, p.contentType, .ofPayload p⟩]
        | none => b.readers
      | _ => b.readers
    { b with bits, readers }

/-- The reader of the bits of a delivery. -/
def reader? (b : Build) (ticket : Nat) : Option Reader :=
  b.readers.find? (·.ticket = ticket)

/-- Changes the reader of the bits of a delivery. -/
def setDrain (b : Build) (ticket : Nat) (d : Drain) : Build :=
  let set (r : Reader) : Reader := if r.ticket = ticket then { r with drain := d } else r
  { b with readers := b.readers.map set }

/-- Passes on to the upload how the reading of its bits went. -/
def reportDrain (b : Build) (ticket : Nat) : Option Rendezvous.Outcome → Build
  | some o => { b with bits := b.bits.report ticket o }
  | none => b

/-- Polls the bits of a delivery. -/
def pollBits (b : Build) (ticket : Nat) : Build × Poll :=
  match b.reader? ticket with
  | none => (b, .finished)
  | some r =>
    let (d, p, report) := r.drain.poll
    ((b.setDrain ticket d).reportDrain ticket report, p)

/-- Where reading some bits has stopped. -/
inductive ReadEnd where
  /-- As many chunks as were asked for have been read. -/
  | more
  | pending
  | finished
  | failure (reason : String)
deriving DecidableEq, Repr

/-- Reads at most so many chunks of the bits of a delivery. -/
def readBits (b : Build) (ticket : Nat) : Nat → Build × List Bytes × ReadEnd
  | 0 => (b, [], .more)
  | n + 1 =>
    match b.pollBits ticket with
    | (b, .chunk chunk) =>
      let (b, chunks, e) := readBits b ticket n
      (b, chunk :: chunks, e)
    | (b, .pending) => (b, [], .pending)
    | (b, .finished) => (b, [], .finished)
    | (b, .failure reason) => (b, [], .failure reason)

/-- A number of chunks that the bits of a delivery do not reach. -/
def beyondBits (b : Build) (ticket : Nat) : Nat :=
  match b.reader? ticket with
  | some r => r.drain.body.items.length + 1
  | none => 1

/-- Leaves the bits of a delivery. -/
def leaveBits (b : Build) (ticket : Nat) : Build :=
  match b.reader? ticket with
  | none => b
  | some r =>
    let (d, report) := r.drain.leave
    (b.setDrain ticket d).reportDrain ticket report

end Build

end BuildBroker
