import BuildBroker.Text.Bytes
import BuildBroker.Rendezvous.Basic

/-!
# Bodies

What a sender sends piece by piece. A body is read by polling: a poll finds nothing yet, a chunk, a
failure, or the end. Uploaded bits are read through a `Drain`, which tells the upload how the
reading went: completed when a poll goes past the last piece and no failure came before, interrupted
at the first failure or when the reader leaves.
-/

namespace BuildBroker

/-- A piece of a body. -/
inductive BodyItem where
  /-- Nothing has come yet. -/
  | pending
  | chunk (b : Bytes)
  | failure (reason : String)
deriving DecidableEq, Repr

/-- A body: pieces, and whether it goes on for ever after them without a further piece. -/
structure Body where
  items : List BodyItem
  endless : Bool
deriving DecidableEq, Repr

/-- What a poll finds. -/
inductive Poll where
  | pending
  | chunk (b : Bytes)
  | failure (reason : String)
  | finished
deriving DecidableEq, Repr

namespace Body

/-- A body in one piece; no piece at all if it is empty. -/
def ofBytes (b : Bytes) : Body :=
  ⟨if b.isEmpty then [] else [.chunk b], false⟩

/-- Everything that the pieces hold. -/
def octets (body : Body) : Bytes :=
  body.items.flatMap fun
    | .chunk b => b
    | _ => []

/-- Polls a body. -/
def poll (body : Body) : Body × Poll :=
  match body.items with
  | [] => (body, if body.endless then .pending else .finished)
  | .pending :: rest => ({ body with items := rest }, .pending)
  | .chunk b :: rest => ({ body with items := rest }, .chunk b)
  | .failure reason :: rest => ({ body with items := rest }, .failure reason)

end Body

/-- What is uploaded: a body and the type it is declared to have. -/
structure Payload where
  contentType : Option String
  body : Body
deriving DecidableEq

/-- A body that is read on behalf of an upload, which is told once how that went. -/
structure Drain where
  body : Body
  /-- Whether the upload still has to be told. -/
  armed : Bool
deriving DecidableEq

namespace Drain

/-- The reading of a payload that has just been taken. -/
def ofPayload (p : Payload) : Drain :=
  ⟨p.body, true⟩

/-- What a poll reports to the upload. -/
def reportOf (armed : Bool) : Poll → Option Rendezvous.Outcome
  | .finished => if armed then some .completed else none
  | .failure _ => if armed then some .interrupted else none
  | _ => none

/-- Polls the body; also what is reported to the upload. -/
def poll (d : Drain) : Drain × Poll × Option Rendezvous.Outcome :=
  let (body, p) := d.body.poll
  let report := reportOf d.armed p
  (⟨body, d.armed && report.isNone⟩, p, report)

/-- Leaves the body; also what is reported to the upload. -/
def leave (d : Drain) : Drain × Option Rendezvous.Outcome :=
  (⟨d.body, false⟩, if d.armed then some .interrupted else none)

/-- The words that show the reading of a body. -/
def describe (d : Drain) : String :=
  "DrainingStream \x7b finished: " ++ (if d.armed then "false" else "true") ++ ", .. \x7d"

end Drain

end BuildBroker
