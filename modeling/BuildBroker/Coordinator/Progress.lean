import BuildBroker.Coordinator.Basic

/-!
# How Uploads and Fetches Go On

An upload or a fetch is moved on turn by turn until it waits or until somebody else has to act: the
executor has to be asked, or the call is over.
-/

namespace BuildBroker

/-- How a call goes on. -/
inductive Progress (α : Type) where
  /-- It has taken a turn. -/
  | moved (c : Coordinator)
  /-- It waits for another call or for its deadline. -/
  | waits
  /-- It has come to something. -/
  | reached (a : α)

/-- What an upload comes to. -/
inductive UploadEvent where
  /-- The executor has to be asked. -/
  | asks (d : Delegation)
  | ended (r : Except CoordinatorError BuildRecord)

/-- What a fetch comes to. -/
inductive FetchEvent where
  /-- It has taken the bits of a delivery. -/
  | took (ticket : Nat) (r : Reader)
  | timedOut

namespace Progress

/-- A turn, or the wait for one. -/
def ofTurn {α : Type} : Option Coordinator → Progress α
  | some c => .moved c
  | none => .waits

end Progress

namespace Coordinator

/-- How an upload goes on. -/
def uploadProgress (c : Coordinator) (now : Nat) (id : BuildId) (u : Nat) : Progress UploadEvent :=
  match (c.registry.find? id).bind (·.uploads[u]?) with
  | some ⟨_, .ended r⟩ => .reached (.ended r)
  | some ⟨_, .submitting d⟩ => .reached (.asks d)
  | _ => .ofTurn (c.uploadTurn? now id u)

/-- How a fetch goes on. -/
def fetchProgress (c : Coordinator) (now : Nat) (id : BuildId) (f : Nat) : Progress FetchEvent :=
  let taken (b : Build) : Option FetchEvent :=
    match b.bits.fetchStage? f with
    | some (.took t) => (b.reader? t).map (.took t)
    | some .timedOut => some .timedOut
    | _ => none
  match (c.registry.find? id).bind taken with
  | some e => .reached e
  | none => .ofTurn (c.fetchTurn? now id f)

end Coordinator

end BuildBroker
