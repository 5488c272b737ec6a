import BuildBroker.Build.Id

/-!
# What Can Go Wrong with a Request

The causes for which the registry, the executor and the coordinator refuse a request, and their
wording. A refusal by the registry passes through the coordinator unchanged.
-/

namespace BuildBroker

/-- Why the registry refuses a request. -/
inductive RegistryError where
  | notFound (id : BuildId)
  | invalid (e : BuildError)
  | sessionAlreadySet (id : BuildId)
  | alreadyCompleted (id : BuildId)
  | alreadyDelegated (id : BuildId)
deriving DecidableEq, Repr

/-- The words for a refusal by the registry. -/
def RegistryError.message : RegistryError → String
  | .notFound id => "Build not found: " ++ id.toText
  | .invalid e => "Invalid build: " ++ e.message
  | .sessionAlreadySet id => "Session endpoints already recorded for build " ++ id.toText
  | .alreadyCompleted id => "Build " ++ id.toText ++ " already has a result"
  | .alreadyDelegated id => "Build " ++ id.toText ++ " was already handed to the executor"

/-- Why a request to the executor did not lead to what was asked for. -/
inductive ExecutorError where
  /-- The executor answered with a status that turns the request down. -/
  | rejected (status : Nat)
  /-- No answer came; the diagnosis, if there is one. -/
  | unreachable (diagnosis : Option String)
deriving DecidableEq, Repr

/-- The addresses that an executor may hand out for a build. -/
inductive EndpointKind where
  | abort
  | hijack
deriving DecidableEq, Repr

/-- The name of the kind. -/
def EndpointKind.toText : EndpointKind → String
  | .abort => "abort"
  | .hijack => "hijack"

/-- Why the coordinator refuses a request. -/
inductive CoordinatorError where
  | registry (e : RegistryError)
  | invalid (e : BuildError)
  | executor (e : ExecutorError)
  /-- No fetch took the bits before the pickup deadline. -/
  | bitsNotFetched
  /-- No upload offered bits before the fetch deadline. -/
  | bitsTimedOut
  /-- The fetch that took the bits did not read them to their end. -/
  | bitsInterrupted
  | noSessionEndpoint (kind : EndpointKind)
  | internal (reason : String)
deriving DecidableEq, Repr

/-- The words for a refusal by the coordinator. -/
def CoordinatorError.message : CoordinatorError → String
  | .registry e => e.message
  | .invalid e => "Invalid request: " ++ e.message
  | .executor (.rejected status) => "Executor rejected build with status " ++ toString status
  | .executor (.unreachable none) => "Executor unreachable"
  | .executor (.unreachable (some diagnosis)) => "Executor unreachable: " ++ diagnosis
  | .bitsNotFetched => "Bits were not fetched by the executor"
  | .bitsTimedOut => "No bits were uploaded in time"
  | .bitsInterrupted => "Executor stopped reading bits before the upload finished"
  | .noSessionEndpoint kind => "No " ++ kind.toText ++ " endpoint recorded for build"
  | .internal reason => "Internal error: " ++ reason

end BuildBroker
