import BuildBroker.Coordinator.Step
import BuildBroker.Http.Handler

/-!
# Steps of the Broker

Everything that can happen to a broker, one step at a time: a request comes in and is taken on, or
something happens at the coordinator that no request of its own asks for. Uploads and fetches that a
request has started go on, fetched bits are read and log sockets are written to and watched in steps
of the latter kind.
-/

namespace BuildBroker

namespace Http

/-- What a request to one build asks of the coordinator. -/
def BuildRoute.call? (x : Context) (r : Request) : BuildRoute → Option BuildStep
  | .bits => some (if r.method = "POST" then .upload ⟨uploadType? r, r.body⟩ else .fetch x.now)
  | .result =>
    if r.method = "PUT" then
      match readJson BuildResult.decode r with
      | .value res => some (.recordResult res)
      | .refused _ | .never => none
    else none
  | .record | .log _ | .hijack | .abort => none

/-- What a request to a route asks of the coordinator. -/
def Route.call? (x : Context) (r : Request) : Route → Option CoordinatorStep
  | .health => none
  | .builds =>
    if r.method = "POST" then
      match readJson Submission.decode r with
      | .value s => some (.create x.freshId x.wallClock s)
      | .refused _ | .never => none
    else none
  | .build segment route =>
    match (segmentText? segment).map parseId with
    | some (.ok id) => (route.call? x r).map (.build id)
    | some (.error _) | none => none

/-- What a request asks of the coordinator; nothing if it only reads, or is refused before. -/
def Request.call? (x : Context) (r : Request) : Option CoordinatorStep :=
  match Route.ofPath? r.target.path with
  | none => none
  | some route => if route.allows r.method then route.call? x r else none

end Http

/-- A step of the broker. Every request comes with a name for the build that it may make. -/
inductive BrokerStep where
  | request (x : Http.Context) (r : Http.Request)
  | inside (s : CoordinatorStep)

/-- What a step asks of the coordinator. -/
def BrokerStep.call? : BrokerStep → Option CoordinatorStep
  | .request x r => r.call? x
  | .inside s => some s

namespace Coordinator

/-- Takes one step, if it is possible. -/
def serveStep? (c : Coordinator) : BrokerStep → Option Coordinator
  | .request x r =>
    if (c.registry.find? x.freshId).isSome then none else some (Http.receive x c r).1
  | .inside s => c.step? s

/-- Takes steps one after the other, if all of them are possible. -/
def serve (c : Coordinator) (steps : List BrokerStep) : Option Coordinator :=
  steps.foldlM serveStep? c

end Coordinator

end BuildBroker
