import BuildBroker.Json.Decode

/-!
# Phases

Where a build stands between its submission and its result.
-/

namespace BuildBroker

/-- Where a build stands. -/
inductive Phase where
  /-- Registered; nothing uploaded yet. -/
  | created
  /-- An upload has claimed the build; the delegation is being prepared. -/
  | bitsPending
  /-- The executor has been asked and has not answered yet. -/
  | bitsInFlight
  /-- The executor has taken the build; the bits are being handed over. -/
  | accepted
  /-- The executor has turned the build down, or could not be reached. -/
  | rejected
  /-- The bits have been handed over; the executor owns the build. -/
  | running
  /-- A result has been recorded and the log is closed. -/
  | completed
deriving DecidableEq, Repr, Inhabited

namespace Phase

/-- All phases, in the order of a build's life. -/
def all : List Phase :=
  [created, bitsPending, bitsInFlight, accepted, rejected, running, completed]

/-- The name of the phase in documents. -/
def toText : Phase → String
  | created => "created"
  | bitsPending => "bits_pending"
  | bitsInFlight => "bits_in_flight"
  | accepted => "accepted"
  | rejected => "rejected"
  | running => "running"
  | completed => "completed"

instance : ToString Phase := ⟨toText⟩

/-- Whether nothing further is on its way in this phase. -/
def isTerminal : Phase → Bool
  | rejected | completed => true
  | _ => false

/-- Whether an upload may claim a build in this phase. -/
def isClaimable : Phase → Bool
  | created | rejected => true
  | _ => false

/-- The phase of a name. -/
def ofText? (s : String) : Option Phase :=
  all.find? (·.toText = s)

theorem ofText?_toText (p : Phase) : ofText? p.toText = some p := by
  cases p <;> decide

/-- Reads the name of a phase. -/
def decodeName (s : String) : Json.Decoded Phase :=
  match ofText? s with
  | some p => .ok p
  | none => Json.unfit (.unknownVariant s (all.map toText))

/-- Reads a phase from a document: its name, or an object with the name as its only member and
nothing as the value. -/
def decode : Json.Doc → Json.Decoded Phase
  | .string (some s) => decodeName s
  | .object (.member (some k) d rest) => do
    let p ← decodeName k
    match d, rest with
    | .null, .done => .ok p
    | .null, _ => .error .broken
    | d, _ => Json.mismatch "unit" d
  | _ => .error .broken

end Phase

end BuildBroker
