import BuildBroker.Http.Sockets
import BuildBroker.Http.Wire
import BuildBroker.Scenario.ExecutorService
import BuildBroker.Scenario.Session
import BuildBroker.Tunnel.Splice

/-!
# A Broker on the Network

A story of a broker that is reached over connections and reaches an executor service over others:
requests, log sockets and tunnels. Time moves only where somebody waits, and then from deadline to
deadline.
-/

namespace BuildBroker.Scenario.Live

open Http Executor Tunnel

/-! ## The state -/

/-- A log socket: the frames that its owner has not read, and whether the broker has left it. -/
structure Socket where
  name : String
  id : BuildId
  side : Log.SocketEnd
  inbox : List Log.Frame
  left : Bool

/-- A tunnel, with the session at its far end. -/
structure Line where
  splice : Splice
  echo : Echo
  /-- How many octets the session has heard. -/
  heard : Nat
  /-- How many octets the caller has read. -/
  read : Nat
  /-- Whether the session is over. -/
  ended : Bool

namespace Line

/-- Lets everything that has been sent through a tunnel arrive. -/
def settle (x : Line) : Line :=
  let splice := x.splice.carry .caller
  let (echo, said) := x.echo.hear (splice.fromCaller.written.drop x.heard)
  let splice := splice.happen (.sends .executor said)
  let splice := if echo.listening then splice else splice.happen (.hangsUp .executor)
  { x with splice := splice.carry .executor, echo, heard := splice.fromCaller.written.length }

/-- A tunnel that has just been opened, with what either side has sent already. -/
def start (fromExecutor fromCaller : Bytes) : Line :=
  let splice := (Splice.start.happen (.sends .executor fromExecutor)).carry .executor
  settle ⟨splice.happen (.sends .caller fromCaller), .start, 0, 0, false⟩

/-- What the caller has not read. -/
def unread (x : Line) : Bytes :=
  x.splice.fromExecutor.written.drop x.read

end Line

/-- A connection of a caller; without a tunnel there is nothing more to read from it. -/
structure Connection where
  name : String
  line : Option Line

/-- A call that waits for a service that does not answer. -/
structure Unanswered where
  call : Nat
  deadline : Nat
  /-- Whether only the head of the answer is wanted. -/
  head : Bool

/-- The broker and everything that is connected to it. -/
structure State where
  session : Session.State
  service : Service
  buildsUrl : Url
  /-- How long the broker waits for an answer. -/
  patience : Nat
  unanswered : List Unanswered
  sockets : List Socket
  connections : List Connection
  /-- The lines of the sessions that are over. -/
  sessions : List (List Bytes)

/-- What can be waited for at a build. -/
inductive Goal where
  /-- So many chunks in the log, or more. -/
  | history (n : Nat)
  | observers (n : Nat)
  | phase (p : Phase)
  /-- Bits that are offered. -/
  | offered

/-- One step of the story. -/
inductive Step where
  | request (r : Option Request)
  | start (name : String) (r : Option Request)
  | join (name : String)
  | wait (id : String) (g : Goal)
  | append (id : String) (chunk : Bytes)
  | record (id : String)
  | setSession (id : String) (e : SessionEndpoints)
  | script (s : List (String × ServiceAct))
  | serviceLog
  | openSocket (name : String) (r : Option Request)
  | sendFrame (name : String) (f : Log.Frame)
  | receiveFrames (name : String) (limit : Option Nat)
  | dropSocket (name : String)
  | connect (name : String) (b : Bytes)
  | send (name : String) (b : Bytes)
  | receive (name : String) (n : Nat)
  | receiveRest (name : String)
  | endSending (name : String)
  | disconnect (name : String)
  | sessions

/-- What a step answers. -/
inductive Reply where
  | nothing
  | result (r : Session.Result)
  /-- No answer came. -/
  | unanswered
  | reached (b : Bool)
  | log (accepted : Bool) (ch : Log.Channel)
  | record (r : BuildRecord)
  | failed (e : CoordinatorError)
  | badId (e : BuildError)
  | received (rs : List Received)
  | switched
  | sent (b : Bool)
  | frames (fs : List Log.Frame) (ended : Bool)
  | shown (s : Shown)
  | bytes (b : Bytes)
  | rest (b : Bytes)
  | sessions (lines : List (List Bytes))

namespace State

/-- A broker without builds. -/
def start (settings : CoordinatorSettings) (buildsUrl : Url) (patience : Nat) (service : Service) :
    State where
  session := .start settings [] .hang
  service
  buildsUrl
  patience
  unanswered := []
  sockets := []
  connections := []
  sessions := []

/-- The build of a name. -/
def build? (s : State) (id : BuildId) : Option Build :=
  s.session.build? id

/-! ## The executor -/

/-- A call for a delegation that has not been sent. -/
def nextDelegation? (s : State) : Option (Nat × BuildId × Nat × Delegation) :=
  s.session.calls.zipIdx.findSome? fun (c, i) =>
    if c.result.isSome || s.unanswered.any (·.call = i) then none
    else match c.work with
      | .upload id u true _ =>
        match (s.build? id).bind (·.uploads[u]?) with
        | some ⟨_, .submitting d⟩ => some (i, id, u, d)
        | _ => none
      | _ => none

/-- A call has to wait for the service. -/
def keepWaiting (s : State) (call : Nat) (head : Bool) : State :=
  { s with unanswered := s.unanswered ++ [⟨call, s.session.now + s.patience, head⟩] }

/-- Puts a question to the service. -/
def ask {α : Type} (s : State)
    (question : (Outgoing → Executor.Reply) → List Outgoing × Option α) : State × Option α :=
  let (sent, answer) := question s.service.replyTo
  ({ s with service := s.service.noteSent sent }, answer)

/-- Sends a delegation. -/
def delegate (s : State) (i : Nat) (id : BuildId) (u : Nat) (d : Delegation) : State :=
  match s.ask (submit s.buildsUrl d) with
  | (s, some verdict) => { s with session := s.session.answer i id u verdict }
  | (s, none) => s.keepWaiting i false

/-- A call that has waited long enough gets no answer. -/
def giveUp (s : State) (x : Unanswered) : State :=
  match s.session.calls[x.call]? with
  | none => s
  | some c =>
    match c.work with
    | .upload id u _ _ =>
      { s with session := s.session.answer x.call id u (.error (.unreachable none)) }
    | _ =>
      let r := Session.State.forCaller x.head (Http.relayAnswer (.error (.unreachable none)))
      { s with session := s.session.finish x.call (.response r) }

/-- Gives up all calls whose deadline has come. -/
def giveUpDue (s : State) : State :=
  let due := s.unanswered.filter (·.deadline ≤ s.session.now)
  due.foldl giveUp { s with unanswered := s.unanswered.filter (s.session.now < ·.deadline) }

/-! ## Log sockets -/

/-- Changes the log of a build. -/
def setLog (s : State) (id : BuildId) (log : Log.Channel) : State :=
  { s with session := s.session.modify id fun b => { b with log } }

/-- Sends what there is to a log socket. -/
def pumpSocket (s : State) (x : Socket) : State × Socket :=
  match x.side, s.build? x.id with
  | .follower w, some b =>
    let (w, log, fs) := w.send b.log (b.log.history.length + 1)
    (s.setLog x.id log,
      { x with side := .follower w, inbox := x.inbox ++ fs, left := x.left || !w.sending })
  | _, _ => (s, x)

/-- Sends what there is to all log sockets. -/
def pump (s : State) : State :=
  let (s, xs) := s.sockets.foldl (fun (s, done) x =>
    let (s, x) := s.pumpSocket x
    (s, x :: done)) (s, [])
  { s with sockets := xs.reverse }

/-! ## Time -/

/-- Lets all calls run until they wait, and sends the delegations that come up. -/
def settleCalls : (fuel : Nat) → State → State
  | 0, s => s
  | fuel + 1, s =>
    let s := { s with session := s.session.settle }
    match s.nextDelegation? with
    | none => s
    | some (i, id, u, d) => settleCalls fuel (s.delegate i id u d)

/-- Lets everything run until it waits. -/
def settle (s : State) : State :=
  (settleCalls (s.session.calls.length + 1) s).pump

/-- The deadlines that calls wait for. -/
def deadlines (s : State) : List Nat :=
  s.session.deadlines ++ s.unanswered.map (·.deadline)

/-- Sets the clock and lets everything run. -/
def atTime (now : Nat) (s : State) : State :=
  settle (giveUpDue { s with session := { s.session with now } })

/-- Waits until something holds, as long as there are deadlines to wait for. -/
def waitFor (goal : State → Bool) : (fuel : Nat) → State → State
  | 0, s => s
  | fuel + 1, s =>
    if goal s then s
    else match s.deadlines.min? with
      | none => s
      | some d => waitFor goal fuel (atTime (max d s.session.now) s)

/-- More deadlines than can come up: each call waits for three at most. -/
def waitFuel (s : State) : Nat :=
  3 * s.session.calls.length + s.deadlines.length + 1

/-- What a call has come to. -/
def resultOf? (s : State) (i : Nat) : Option Session.Result :=
  (s.session.calls[i]?).bind (·.result)

/-- Waits for the end of a call. -/
def awaitCall (s : State) (i : Nat) : State × Reply :=
  let s := waitFor (fun s => (s.resultOf? i).isSome) s.waitFuel s
  match s.resultOf? i with
  | some r => (s, .result r)
  | none => (s, .unanswered)

/-- Whether something that is waited for at a build has come. -/
def holds (g : Goal) (b : Build) : Bool :=
  match g with
  | .history n => n ≤ b.log.history.length
  | .observers n => b.log.liveCount = n
  | .phase p => b.record.phase = p
  | .offered => b.bits.isOccupied

/-! ## Tunnels -/

/-- A session whose tunnel is over is over too. -/
def closeLine (s : State) (x : Line) : State × Line :=
  if x.splice.isClosed && !x.ended then
    ({ s with sessions := s.sessions ++ [x.echo.finish] }, { x with ended := true })
  else (s, x)

/-- Something happens to a tunnel. -/
def onLine (s : State) (x : Line) (e : SpliceEvent) : State × Line :=
  s.closeLine (Line.settle { x with splice := x.splice.happen e })

/-- Tries to open a tunnel for a request. -/
def openFor (s : State) (u : Url) (r : Request) : State × Opening :=
  let send (x : Forwarded) : Executor.Reply := s.service.reply x.method x.target
  match openTunnel s.service.listens send u r with
  | (some x, o) => ({ s with service := s.service.noteForwarded x }, o)
  | (none, o) => (s, o)

/-! ## Requests -/

/-- The broker takes a request on. -/
def arrive (s : State) (r : Request) : State × Pending :=
  let x := { s.session.context with upgradable := true }
  let (coordinator, p) := Http.receive x s.session.coordinator r
  ({ s with session := { s.session with coordinator } }, p)

/-- Ends a call with a response. -/
def respond (s : State) (name : String) (r : Request) (a : Response) : State :=
  { s with session := s.session.respond name r.isHead false a }

/-- A call for what the answer to a request waits for. -/
def await (s : State) (name : String) (r : Request) (p : Pending) : State :=
  match p with
  | .relay q =>
    match s.ask (relay q) with
    | (s, some a) => s.respond name r (Http.relayAnswer a)
    | (s, none) =>
      let s := s.keepWaiting s.session.calls.length r.isHead
      { s with session := s.session.startCall name .stuck }
  | .tunnel u =>
    match s.openFor u r with
    | (s, .declined a) =>
      let response : Response := ⟨a.status, a.headers, a.body⟩
      if a.complete then s.respond name r response
      else { s with session := s.session.endedCall name (.broken response "") }
    | (s, .opened headers early) =>
      -- the caller has no use for the tunnel and leaves it
      let (s, _) := s.onLine (Line.start early []) (.hangsUp .caller)
      s.respond name r ⟨switchedStatus, headers, []⟩
    | (s, o) =>
      match o.response? with
      | some a => s.respond name r a
      | none => { s with session := s.session.startCall name .stuck }
  | .socket _ _ => s.respond name r (.bare switchedStatus)
  | p => { s with session := s.session.await name r.isHead false p }

/-- Starts a request; also the number of its call. -/
def startRequest (s : State) (name : String) (r : Request) : State × Nat :=
  let (s, p) := s.arrive r
  (settle (s.await name r p), s.session.calls.length)

/-- The response in a result. -/
def responseOf : Session.Result → Option Response
  | .response r | .broken r _ | .held r => some r
  | _ => none

/-- Sends octets on a new connection and reads one answer. -/
def connect (s : State) (name : String) (b : Bytes) : State × Reply :=
  let keep (s : State) (line : Option Line) : State :=
    { s with connections := ⟨name, line⟩ :: s.connections.filter (·.name ≠ name) }
  match Arrival.take b with
  | .unfinished => (keep s none, .unanswered)
  | .malformed => (keep s none, .shown malformedAnswer)
  | .taken a rest =>
    let shown (r : Response) (words : Option String) : Reply :=
      .shown (r.shown a.minor a.isLast a.request.isHead words)
    match s.arrive a.request with
    | (s, .tunnel u) =>
      match s.openFor u a.request with
      | (s, .opened headers early) =>
        let (s, line) := s.closeLine (Line.start early rest)
        (keep s (some line), shown ⟨switchedStatus, headers, []⟩ none)
      | (s, .declined d) => (keep s none, shown ⟨d.status, d.headers, d.body⟩ (some d.reason))
      | (s, o) =>
        match o.response? with
        | some r => (keep s none, shown r none)
        | none => (keep s none, .unanswered)
    | (s, p) =>
      let i := s.session.calls.length
      match (settle (s.await name a.request p)).awaitCall i with
      | (s, .result r) =>
        match responseOf r with
        | some r => (keep s none, shown r none)
        | none => (keep s none, .unanswered)
      | (s, reply) => (keep s none, reply)

/-! ## Steps -/

/-- A step at a tunnel of a connection. -/
def atLine (s : State) (name : String) (otherwise : Reply)
    (f : State → Line → (State × Line) × Reply) : State × Reply :=
  match s.connections.find? (·.name = name) with
  | some ⟨_, some x⟩ =>
    let ((s, x), reply) := f s x
    let set (c : Connection) : Connection := if c.name = name then { c with line := some x } else c
    ({ s with connections := s.connections.map set }, reply)
  | _ => (s, otherwise)

/-- A step at a log socket. -/
def atSocket (s : State) (name : String) (otherwise : Reply)
    (f : State → Socket → (State × Socket) × Reply) : State × Reply :=
  match s.sockets.find? (·.name = name) with
  | some x =>
    let ((s, x), reply) := f s x
    ({ s with sockets := s.sockets.map fun y => if y.name = name then x else y }, reply)
  | none => (s, otherwise)

/-- What arrives at a log socket is taken in. -/
def takeIn (s : State) (x : Socket) (f : Option Log.Frame) : State × Socket :=
  match s.build? x.id with
  | none => (s, x)
  | some b =>
    let (e, log, replies) := x.side.arrive b.log f
    (s.setLog x.id log, { x with side := e, inbox := x.inbox ++ replies, left := !e.isOpen })

/-- Opens a log socket, if the request asks for one; any other request is answered. -/
def openSocket (s : State) (name : String) (r : Request) : State × Reply :=
  match s.arrive r with
  | (s, .socket id side) =>
    let add (s : State) (e : Log.SocketEnd) : State :=
      { s with sockets := ⟨name, id, e, [], false⟩ :: s.sockets.filter (·.name ≠ name) }
    match s.build? id with
    | some b =>
      let (log, e) := Log.SocketEnd.connect b.log side
      (add (s.setLog id log) e, .switched)
    | none => (s, .switched)
  | (s, p) => (settle (s.await name r p)).awaitCall s.session.calls.length

/-- Whether a reply of a session refuses a step, and how. -/
def ofSession (otherwise : Session.Reply → Reply) : Session.Reply → Reply
  | .failed e => .failed e
  | .badId e => .badId e
  | r => otherwise r

/-- A step at the coordinator. -/
def inSession (s : State) (step : Session.Step) (reply : Session.Reply → Reply) : State × Reply :=
  let (session, r) := s.session.step step
  ({ s with session }, ofSession reply r)

/-- The log of a build, after an attempt to append to it. -/
def logReply (s : State) (raw : String) (accepted : Bool) : Reply :=
  match (BuildId.ofText raw).toOption.bind s.build? with
  | some b => .log accepted b.log
  | none => .nothing

/-- Takes one step. -/
def step (s : State) : Step → State × Reply
  | .request none | .start _ none | .openSocket _ none => (s, .unanswered)
  | .request (some r) =>
    let (s, i) := s.startRequest "" r
    s.awaitCall i
  | .start name (some r) => ((s.startRequest name r).1, .nothing)
  | .join name =>
    match s.session.calls.reverse.findIdx? (·.name = name) with
    | some k => s.awaitCall (s.session.calls.length - 1 - k)
    | none => (s, .unanswered)
  | .wait raw g =>
    let goal (s : State) : Bool :=
      match (BuildId.ofText raw).toOption.bind s.build? with
      | some b => holds g b
      | none => false
    let s := waitFor goal s.waitFuel s
    (s, .reached (goal s))
  | .append raw chunk =>
    let (s, r) := s.inSession (.append raw chunk) fun r => .reached (r matches .flag true)
    match r with
    | .reached accepted => (s, s.logReply raw accepted)
    | r => (s, r)
  | .record raw =>
    s.inSession (.get raw) fun
      | .record r => .record r
      | _ => .nothing
  | .setSession raw e => s.inSession (.setSession raw e) fun _ => .nothing
  | .script script => ({ s with service := { s.service with script } }, .nothing)
  | .serviceLog => (s, .received s.service.log)
  | .openSocket name (some r) => s.openSocket name r
  | .sendFrame name f => s.atSocket name (.sent false) fun s x => (s.takeIn x (some f), .sent true)
  | .receiveFrames name limit =>
    s.atSocket name (.frames [] true) fun s x =>
      let n := limit.getD (x.inbox.length + 1)
      ((s, { x with inbox := x.inbox.drop n }),
        .frames (x.inbox.take n) (x.left && x.inbox.length < n))
  | .dropSocket name =>
    match s.sockets.find? (·.name = name) with
    | some x => ({ (s.takeIn x none).1 with sockets := s.sockets.filter (·.name ≠ name) }, .nothing)
    | none => (s, .nothing)
  | .connect name b => s.connect name b
  | .send name b =>
    s.atLine name (.sent true) fun s x => (s.onLine x (.sends .caller b), .sent true)
  | .receive name n =>
    s.atLine name (.bytes []) fun s x =>
      ((s, { x with read := x.read + n }), .bytes (x.unread.take n))
  | .receiveRest name =>
    s.atLine name (.rest []) fun s x =>
      ((s, { x with read := x.read + x.unread.length }), .rest x.unread)
  | .endSending name => s.atLine name .nothing fun s x => (s.onLine x (.hangsUp .caller), .nothing)
  | .disconnect name =>
    let (s, reply) := s.atLine name .nothing fun s x => (s.onLine x (.hangsUp .caller), .nothing)
    ({ s with connections := s.connections.filter (·.name ≠ name) }, reply)
  | .sessions => (s, .sessions s.sessions)

end State

/-- Plays one step. -/
def play (s : State) (step : Step) : State × Reply :=
  let (s, reply) := s.step step
  (s.settle, reply)

end BuildBroker.Scenario.Live
