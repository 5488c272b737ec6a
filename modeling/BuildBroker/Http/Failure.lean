import BuildBroker.Coordinator.Error

/-!
# Failures as Callers See Them

Every refusal reaches a caller as a status and a message. The status says whose fault it is: the
caller's request, the state of the build, the executor, or the broker.
-/

namespace BuildBroker

/-- A refusal as a caller sees it. -/
structure Failure where
  status : Nat
  message : String
deriving DecidableEq, Repr

namespace Failure

/-- The request itself is at fault. -/
def badRequest (message : String) : Failure := ⟨400, message⟩

/-- What was asked for is not there. -/
def notFound (message : String) : Failure := ⟨404, message⟩

/-- The state of the build forbids what was asked for. -/
def conflict (message : String) : Failure := ⟨409, message⟩

/-- The broker itself is at fault. -/
def internal (message : String) : Failure := ⟨500, message⟩

/-- The executor did not do its part. -/
def badGateway (message : String) : Failure := ⟨502, message⟩

/-- The executor turned the build down. -/
def unavailable (message : String) : Failure := ⟨503, message⟩

/-- A refusal because a part of a build is at fault. -/
def ofBuild (e : BuildError) : Failure :=
  badRequest e.message

/-- A refusal by the registry. -/
def ofRegistry (e : RegistryError) : Failure :=
  match e with
  | .notFound _ => notFound e.message
  | .invalid _ => badRequest e.message
  | .sessionAlreadySet _ | .alreadyCompleted _ | .alreadyDelegated _ => conflict e.message

/-- A refusal by the coordinator. The reason of an internal one is shown bare. -/
def ofCoordinator (e : CoordinatorError) : Failure :=
  match e with
  | .registry e => ofRegistry e
  | .invalid _ => badRequest e.message
  | .executor (.rejected _) => unavailable e.message
  | .executor (.unreachable _) | .bitsInterrupted => badGateway e.message
  | .bitsNotFetched | .bitsTimedOut => notFound e.message
  | .noSessionEndpoint _ => internal e.message
  | .internal reason => internal reason

/-- The document that tells the caller. -/
def toValue (f : Failure) : Json.Value :=
  .object [("error", .object [("message", .string f.message), ("status", .ofNat f.status)])]

end Failure

end BuildBroker
