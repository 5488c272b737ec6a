import BuildBroker.Text.Bytes
import BuildBroker.Url.Percent
import BuildBroker.Url.Domain

/-!
# Routes

Which path asks for what. The id of a build is one segment of the path, with its escapes undone; the
paths below a build also match an empty id, which names none.
-/

namespace BuildBroker.Http

/-- The two sides of a log. -/
inductive LogSide where
  /-- Producers send chunks. -/
  | input
  /-- Observers are sent chunks. -/
  | output
deriving DecidableEq, Repr

/-- What can be asked of one build. -/
inductive BuildRoute where
  | record
  | bits
  | result
  | log (side : LogSide)
  | hijack
  | abort
deriving DecidableEq, Repr

/-- What a path asks for. -/
inductive Route where
  | health
  | builds
  /-- Something of the build whose id is in the path, as it stands there. -/
  | build (id : List Char) (r : BuildRoute)
deriving DecidableEq, Repr

/-- The part of a build's path after its id. -/
def BuildRoute.segments : BuildRoute → List String
  | .record => []
  | .bits => ["bits"]
  | .result => ["result"]
  | .log .input => ["log", "input"]
  | .log .output => ["log", "output"]
  | .hijack => ["hijack"]
  | .abort => ["abort"]

/-- Everything that can be asked of one build. -/
def BuildRoute.all : List BuildRoute :=
  [.record, .bits, .result, .log .input, .log .output, .hijack, .abort]

/-- What a path asks for, if anything. -/
def Route.ofPath? (path : List Char) : Option Route :=
  match Host.splitOn '/' path with
  | [] :: segments =>
    match segments with
    | [s] =>
      if s = "healthz".toList then some .health
      else if s = "builds".toList then some .builds
      else none
    | s :: id :: rest =>
      if s ≠ "builds".toList || (id.isEmpty && rest.isEmpty) then none
      else
        (BuildRoute.all.find? fun r => r.segments.map String.toList = rest).map fun r => .build id r
    | [] => none
  | _ => none

/-- The methods that a route answers to, as they are told to callers who use another one; nothing
for a route that answers to all. -/
def Route.allow? : Route → Option String
  | .health | .build _ .record | .build _ (.log _) => some "GET,HEAD"
  | .builds | .build _ .bits => some "POST,GET,HEAD"
  | .build _ .result => some "GET,HEAD,PUT"
  | .build _ .hijack | .build _ .abort => none

/-- Whether a route answers to a method. -/
def Route.allows (r : Route) (method : String) : Bool :=
  match r with
  | .health | .build _ .record | .build _ (.log _) => method = "GET" || method = "HEAD"
  | .builds | .build _ .bits => method = "POST" || method = "GET" || method = "HEAD"
  | .build _ .result => method = "GET" || method = "HEAD" || method = "PUT"
  | .build _ .hijack | .build _ .abort => true

/-- The text of a segment with its escapes undone, if it is text. -/
def segmentText? (segment : List Char) : Option String :=
  Bytes.toText? (Percent.decode (Bytes.ofChars segment))

end BuildBroker.Http
