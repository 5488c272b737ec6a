import BuildBroker.Coordinator.Basic
import BuildBroker.Executor.Basic
import BuildBroker.Http.Failure
import BuildBroker.Http.MediaType
import BuildBroker.Http.Route

/-!
# Handling Requests

What the broker does with a request. Some requests are answered at once; the others start something
that takes time, and `Pending` says what the answer waits for. The checks of a request are made in a
fixed order, and the first one that fails decides the answer.
-/

namespace BuildBroker.Http

/-- What the answer to a request waits for. -/
inductive Pending where
  | done (r : Response)
  /-- The body of the request, which does not end. -/
  | stuck
  | upload (id : BuildId) (number : Nat)
  | fetch (id : BuildId) (number : Nat)
  | relay (r : RelayRequest)
  /-- A session with the executor. -/
  | tunnel (url : Url)
  /-- The two sides of a log socket, which speak after the answer. -/
  | socket (id : BuildId) (side : LogSide)

/-- The answer to a refusal. -/
def Response.ofFailure (f : Failure) : Response :=
  .json f.status f.toValue

/-- The answer to a refusal by the coordinator. -/
def Response.ofError (e : CoordinatorError) : Response :=
  .ofFailure (.ofCoordinator e)

/-! ## Documents in requests -/

/-- The words for a body that could not be collected. -/
def bufferFailure (reason : String) : String :=
  "Failed to buffer the request body: " ++ reason

/-- The words for a body that is too large. -/
def tooLargeReason : String := "length limit exceeded"

/-- The words for a document that has no value of the type it should have. -/
def decodeFailure : Json.DecodeError → String
  | .broken => "Failed to parse the request body as JSON"
  | .unfit path p =>
    let place := if path.isEmpty then "" else Json.renderPath path ++ ": "
    "Failed to deserialize the JSON body into the target type: " ++ place ++ p.message

/-- What reading a document out of a request comes to. -/
inductive Read (α : Type) where
  | value (a : α)
  | refused (message : String)
  | never

/-- Whether a request declares that its body is JSON. -/
def Request.declaresJson (r : Request) : Bool :=
  match r.headers.text? "content-type" with
  | some t => MediaType.isJson t
  | none => false

/-- Reads a document out of a request: its declared type, then its body, then its content. -/
def readJson {α : Type} (decode : Json.Doc → Json.Decoded α) (r : Request) : Read α :=
  if !r.declaresJson then
    .refused ("Expected request with `Content-Type: " ++ Response.jsonType ++ "`")
  else match collect r.body with
    | .never => .never
    | .failed reason => .refused (bufferFailure reason)
    | .tooLarge => .refused (bufferFailure tooLargeReason)
    | .whole b =>
      match Json.decodeBytes decode b with
      | .ok a => .value a
      | .error e => .refused (decodeFailure e)

/-! ## Ids -/

/-- The build that a path names; one that is no id cannot name a build. -/
def parseId (raw : String) : Except Response BuildId :=
  match BuildId.ofText raw with
  | .ok id => .ok id
  | .error _ => .error (.ofFailure (.notFound ("Build not found: " ++ raw)))

/-! ## Log sockets -/

/-- A text in lower case, as far as it is ASCII. -/
def lowerText (b : Bytes) : List Char :=
  (b.map fun x => Char.ofNat x.toNat).map Char.toLower

/-- Whether the first header of a name has a value, in any case. -/
def headerIs (hs : Headers) (name value : String) : Bool :=
  match hs.first? name with
  | some v => lowerText v = value.toList
  | none => false

/-- Whether a text occurs in another. -/
def occursIn (part : List Char) : List Char → Bool
  | [] => part.isEmpty
  | c :: cs => part.isPrefixOf (c :: cs) || occursIn part cs

/-- Whether a value occurs in the first header of a name, in any case. -/
def headerHas (hs : Headers) (name value : String) : Bool :=
  match hs.first? name with
  | some v => occursIn value.toList (lowerText v)
  | none => false

/-- Why a request does not open a socket, if so. -/
def socketRefusal? (upgradable : Bool) (r : Request) : Option Response :=
  if r.method ≠ "GET" then some (.plain 405 "Request method must be `GET`")
  else if !headerHas r.headers "connection" "upgrade" then
    some (.plain 400 "Connection header did not include 'upgrade'")
  else if !headerIs r.headers "upgrade" "websocket" then
    some (.plain 400 "`Upgrade` header did not include 'websocket'")
  else if !headerIs r.headers "sec-websocket-version" "13" then
    some (.plain 400 "`Sec-WebSocket-Version` header did not include '13'")
  else if (r.headers.first? "sec-websocket-key").isNone then
    some (.plain 400 "`Sec-WebSocket-Key` header missing")
  else if !upgradable then
    some (.plain 426 "WebSocket request couldn't be upgraded since no upgrade state was present")
  else none

/-! ## Handlers -/

/-- What a handler needs besides the request: the clock, and the id for a build that is made. -/
structure Context where
  now : Nat
  wallClock : Time.Instant
  freshId : BuildId
  /-- Whether the connection of the request can be used for another protocol. -/
  upgradable : Bool

variable (x : Context) (c : Coordinator)

/-- The answer without any change. -/
def answer (r : Response) : Coordinator × Pending :=
  (c, .done r)

/-- A refusal without any change. -/
def refuse (e : CoordinatorError) : Coordinator × Pending :=
  answer c (.ofError e)

/-- Tells that the broker is alive. -/
def health : Coordinator × Pending :=
  answer c (.json 200 (.object [("status", .string "ok"), ("builds", .ofNat c.registry.size)]))

/-- Lists all builds. -/
def listBuilds : Coordinator × Pending :=
  answer c (.json 200 (.array (c.registry.list.map BuildRecord.toValue)))

/-- Registers a build. -/
def createBuild (r : Request) : Coordinator × Pending :=
  match readJson Submission.decode r with
  | .never => (c, .stuck)
  | .refused m => answer c (.ofFailure (.badRequest m))
  | .value s =>
    match c.create x.freshId x.wallClock s with
    | .ok (c, record) => answer c (.json 201 record.toValue)
    | .error e => refuse c e

/-- Shows a build. -/
def showBuild (raw : String) : Coordinator × Pending :=
  match parseId raw with
  | .error r => answer c r
  | .ok id =>
    match c.get id with
    | .ok record => answer c (.json 200 record.toValue)
    | .error e => refuse c e

/-- The declared type of uploaded bits, if it is text. -/
def uploadType? (r : Request) : Option String :=
  r.headers.text? "content-type"

/-- Starts an upload. -/
def uploadBits (raw : String) (r : Request) : Coordinator × Pending :=
  match parseId raw with
  | .error r => answer c r
  | .ok id =>
    match c.startUpload id ⟨uploadType? r, r.body⟩ with
    | .ok (c, u) => (c, .upload id u)
    | .error e => refuse c e

/-- Starts a fetch. -/
def fetchBits (raw : String) : Coordinator × Pending :=
  match parseId raw with
  | .error r => answer c r
  | .ok id =>
    match c.startFetch id x.now with
    | .ok (c, f) => (c, .fetch id f)
    | .error e => refuse c e

/-- Shows the result of a build. -/
def showResult (raw : String) : Coordinator × Pending :=
  match parseId raw with
  | .error r => answer c r
  | .ok id =>
    match c.result id with
    | .ok res => answer c (.json 200 res.toValue)
    | .error e => refuse c e

/-- Records the result of a build. An id that names no build decides the answer before the body
does. -/
def putResult (raw : String) (r : Request) : Coordinator × Pending :=
  let doc := readJson BuildResult.decode r
  match doc with
  | .never => (c, .stuck)
  | _ =>
    match parseId raw with
    | .error r => answer c r
    | .ok id =>
      match c.get id with
      | .error e => refuse c e
      | .ok _ =>
        match doc with
        | .never => (c, .stuck)
        | .refused m => answer c (.ofFailure (.badRequest m))
        | .value res =>
          match c.recordResult id res with
          | .ok (c, res) => answer c (.json 200 res.toValue)
          | .error e => refuse c e

/-- Passes an abort on to the executor. The body is collected before the id is looked at. -/
def abortBuild (raw : String) (r : Request) : Coordinator × Pending :=
  match collect r.body with
  | .never => (c, .stuck)
  | .failed reason => answer c (.plain 400 (bufferFailure reason))
  | .tooLarge => answer c (.plain 413 (bufferFailure tooLargeReason))
  | .whole body =>
    match parseId raw with
    | .error r => answer c r
    | .ok id =>
      match c.endpoint id .abort with
      | .error e => refuse c e
      | .ok url => (c, .relay ⟨url, r.method, uploadType? r, body⟩)

/-- Opens a session with the executor. -/
def hijackBuild (raw : String) : Coordinator × Pending :=
  match parseId raw with
  | .error r => answer c r
  | .ok id =>
    match c.endpoint id .hijack with
    | .error e => refuse c e
    | .ok url => (c, .tunnel url)

/-- Opens a log socket. -/
def openLog (raw : String) (side : LogSide) : Coordinator × Pending :=
  match parseId raw with
  | .error r => answer c r
  | .ok id =>
    match c.get id with
    | .error e => refuse c e
    | .ok _ => (c, .socket id side)

/-- The answer to an id that is not even text. -/
def badSegment : Response :=
  .plain 400 "Invalid URL: Invalid UTF-8 in `id`"

/-- Handles a request to a route that answers to its method. -/
def handle (r : Request) : Route → Coordinator × Pending
  | .health => health c
  | .builds => if r.method = "POST" then createBuild x c r else listBuilds c
  | .build segment (.log side) =>
    match socketRefusal? x.upgradable r with
    | some refusal => answer c refusal
    | none =>
      match segmentText? segment with
      | none => answer c badSegment
      | some raw => openLog c raw side
  | .build segment route =>
    match segmentText? segment with
    | none => answer c badSegment
    | some raw =>
      match route with
      | .record => showBuild c raw
      | .bits => if r.method = "POST" then uploadBits c raw r else fetchBits x c raw
      | .result => if r.method = "PUT" then putResult c raw r else showResult c raw
      | .hijack => hijackBuild c raw
      | .abort => abortBuild c raw r
      | .log side => openLog c raw side

/-- The answer to a method that a route does not answer to. -/
def methodRefusal (route : Route) : Response :=
  ⟨405, (route.allow?.map fun a => Header.mk "allow" (Bytes.ofText a)).toList, []⟩

/-- Takes a request on. -/
def receive (r : Request) : Coordinator × Pending :=
  match Route.ofPath? r.target.path with
  | none => answer c (.bare 404)
  | some route =>
    if route.allows r.method then handle x c r route else answer c (methodRefusal route)

/-! ## Answers that took time -/

/-- Whether the answer to a request is sent without its body. -/
def Request.isHead (r : Request) : Bool :=
  r.method = "HEAD"

/-- The answer to an upload that is over. -/
def uploadAnswer : Except CoordinatorError BuildRecord → Response
  | .ok record => .json 201 record.toValue
  | .error e => .ofError e

/-- The type header of relayed octets, if their type is a legal value. -/
def typeHeader (contentType : Option String) : Headers :=
  (contentType.bind fun t => Header.ofParts? "content-type" (Bytes.ofText t)).toList

/-- The head of the answer that streams bits. -/
def bitsHead (contentType : Option String) : Response :=
  ⟨200, typeHeader contentType, []⟩

/-- The answer to a fetch that has taken bits. Where only the head is wanted the bits are left; else
they are read as far as they go. -/
def handBits (c : Coordinator) (id : BuildId) (ticket : Nat) (x : Reader) (head : Bool) :
    Coordinator × Response :=
  let answer := bitsHead x.contentType
  if head then (c.modify id (·.leaveBits ticket), answer)
  else match c.registry.find? id with
    | none => (c, answer)
    | some b =>
      let (b, chunks, _) := b.readBits ticket (b.beyondBits ticket)
      (c.modify id fun _ => b, { answer with body := chunks.flatten })

/-- The answer to a fetch that waited in vain. -/
def lateFetchAnswer : Response :=
  .ofError .bitsTimedOut

/-- The answer to an abort that was passed on. -/
def relayAnswer : Except ExecutorError RelayAnswer → Response
  | .ok a => ⟨a.status, typeHeader a.contentType, a.body⟩
  | .error e => .ofError (.executor e)

/-- Why no session with the executor could be opened. -/
inductive TunnelError where
  | noHost (url : Url)
  | unreachable
  | handshake
  | targetTooLong
deriving DecidableEq, Repr

/-- The words for the error. -/
def TunnelError.message : TunnelError → String
  | .noHost url => "hijack endpoint " ++ url.toText ++ " has no host"
  | .unreachable => "failed to connect to executor"
  | .handshake => "executor handshake failed"
  | .targetTooLong => "invalid upstream request: uri too long"

/-- The answer to a session that could not be opened. -/
def TunnelError.response (e : TunnelError) : Response :=
  .ofFailure (match e with
    | .noHost _ | .targetTooLong => .internal e.message
    | .unreachable | .handshake => .badGateway e.message)

end BuildBroker.Http
