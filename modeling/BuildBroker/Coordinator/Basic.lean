import BuildBroker.Registry.Basic

/-!
# The Coordinator

The operations that callers and executors have on builds: register, upload bits, fetch them, record
the result, and find the addresses of a running session. Uploads and fetches take several turns;
they are started here and moved on by `uploadTurn?` and `fetchTurn?` of their build.
-/

namespace BuildBroker

/-- What the coordinator has to know about its surroundings. -/
structure CoordinatorSettings where
  /-- The `host:port` under which executors reach the broker. -/
  peer : String
  /-- How long a fetch waits for bits, in milliseconds. -/
  fetchTimeout : Nat
  /-- How long an upload waits for its bits to be fetched, in milliseconds. -/
  pickupTimeout : Nat
deriving DecidableEq

/-- The builds and the settings. -/
structure Coordinator where
  settings : CoordinatorSettings
  registry : Registry

namespace Coordinator

/-- A refusal by the registry passes through unchanged. -/
def ofRegistry {α : Type} : Except RegistryError α → Except CoordinatorError α
  | .ok a => .ok a
  | .error e => .error (.registry e)

/-- Registers a build. -/
def create (c : Coordinator) (id : BuildId) (now : Time.Instant) (s : Submission) :
    Except CoordinatorError (Coordinator × BuildRecord) := do
  let (registry, record) ← ofRegistry (c.registry.create id now s)
  return ({ c with registry }, record)

/-- The record of a build. -/
def get (c : Coordinator) (id : BuildId) : Except CoordinatorError BuildRecord :=
  ofRegistry ((c.registry.get id).map (·.record))

/-- Records the result of a build and ends its log. -/
def recordResult (c : Coordinator) (id : BuildId) (r : BuildResult) :
    Except CoordinatorError (Coordinator × BuildResult) := do
  match r.validate with
  | .error e => throw (.invalid e)
  | .ok () =>
    let (registry, record) ← ofRegistry (c.registry.update id (·.complete r.status))
    return ({ c with registry }, ⟨record.status.getD ""⟩)

/-- The result of a build; empty while there is none. -/
def result (c : Coordinator) (id : BuildId) : Except CoordinatorError BuildResult := do
  let record ← c.get id
  return ⟨record.status.getD ""⟩

/-- The address of one of the session endpoints of a build. -/
def endpoint (c : Coordinator) (id : BuildId) (kind : EndpointKind) :
    Except CoordinatorError Url := do
  let record ← c.get id
  let url := match kind with
    | .abort => record.abortUrl?
    | .hijack => record.hijackUrl?
  match url with
  | some url => return url
  | none => throw (.noSessionEndpoint kind)

/-- Changes the build of a name. -/
def modify (c : Coordinator) (id : BuildId) (f : Build → Build) : Coordinator :=
  { c with registry := c.registry.modify id f }

/-- Starts an upload of bits; also its number. The build has to be there. -/
def startUpload (c : Coordinator) (id : BuildId) (p : Payload) :
    Except CoordinatorError (Coordinator × Nat) := do
  let b ← ofRegistry (c.registry.get id)
  return (c.modify id (·.startUpload p), b.uploads.length)

/-- Starts a fetch of bits; also its number. The build has to be there. -/
def startFetch (c : Coordinator) (id : BuildId) (now : Nat) :
    Except CoordinatorError (Coordinator × Nat) := do
  let b ← ofRegistry (c.registry.get id)
  return (c.modify id (·.startFetch (now + c.settings.fetchTimeout)), b.bits.fetches.length)

/-- The next turn of an upload; none while it waits. -/
def uploadTurn? (c : Coordinator) (now : Nat) (id : BuildId) (u : Nat) : Option Coordinator := do
  let b ← c.registry.find? id
  let b ← b.uploadTurn? c.settings.peer c.settings.pickupTimeout now u
  return c.modify id fun _ => b

/-- The next turn of a fetch; none while it waits. -/
def fetchTurn? (c : Coordinator) (now : Nat) (id : BuildId) (f : Nat) : Option Coordinator := do
  let b ← c.registry.find? id
  let b ← b.fetchTurn? now f
  return c.modify id fun _ => b

end Coordinator

end BuildBroker
