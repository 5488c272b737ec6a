import BuildBroker.Registry.Basic

/-!
# Steps of the Registry

The operations that change what is registered, one at a time: builds are registered, and the record
of one build is changed. An operation that is refused changes nothing.
-/

namespace BuildBroker

/-- A change of one record. -/
inductive RecordChange where
  | status (text : String)
  | phase (p : Phase)
  /-- The build is claimed for an upload. -/
  | delegation
  | session (e : SessionEndpoints)
  /-- The result of the build, which also ends its log. -/
  | result (status : String)

/-- An operation of the registry. -/
inductive RegistryStep where
  | create (id : BuildId) (now : Time.Instant) (s : Submission)
  | change (id : BuildId) (x : RecordChange)

/-- Changes the record of a build if the change is allowed. -/
def Build.change (b : Build) : RecordChange → Except RegistryError Build
  | .status text => .ok (b.setStatus text)
  | .phase p => .ok (b.setPhase p)
  | .delegation => b.beginDelegation
  | .session e => b.setSession e
  | .result status => b.complete status

namespace Registry

/-- Performs an operation; also the record that it is about. -/
def perform (r : Registry) : RegistryStep → Except RegistryError (Registry × BuildRecord)
  | .create id now s => r.create id now s
  | .change id x => r.update id (·.change x)

/-- What an operation has left behind: one that is refused changes nothing. -/
def after (r : Registry) (x : RegistryStep) : Registry :=
  match r.perform x with
  | .ok (r', _) => r'
  | .error _ => r

/-- What operations one after the other have left behind. -/
def run (r : Registry) (xs : List RegistryStep) : Registry :=
  xs.foldl after r

end Registry

end BuildBroker
