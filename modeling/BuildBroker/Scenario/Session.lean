import BuildBroker.Coordinator.Progress
import BuildBroker.Http.Handler
import BuildBroker.Registry.Step
import BuildBroker.Scenario.Schedule

/-!
# Sessions

A session acts out a story on a whole broker in virtual time: callers, uploads, fetches and requests
with an executor that answers by a script. After every step all calls have run until they wait, and
the answer shows which calls ended and how every build stands.
-/

namespace BuildBroker.Scenario.Session

open Http

/-- How the executor answers a delegation. -/
inductive Verdict where
  | accept (e : SessionEndpoints)
  | reject (status : Nat)
  | unreachable
  /-- It answers later, by the next verdict of the script. -/
  | hang

/-- What is left to be read of something that was taken. -/
inductive Held where
  | bits (id : BuildId) (ticket : Nat)
  | body (b : Body)

/-- What a call does. -/
inductive Work where
  /-- An upload; whether its delegation hangs, and whether it came as a request. -/
  | upload (id : BuildId) (number : Nat) (hanging request : Bool)
  /-- A fetch by the coordinator. -/
  | fetch (id : BuildId) (number : Nat)
  /-- A fetch by a request. -/
  | fetchRequest (id : BuildId) (number : Nat) (head hold : Bool)
  /-- A request that reads bits. -/
  | reading (id : BuildId) (ticket : Nat) (head : Response) (chunks : List Bytes)
  /-- A request that waits for its own body. -/
  | stuck

/-- What a call has come to. -/
inductive Result where
  | record (r : BuildRecord)
  | failed (e : CoordinatorError)
  /-- Bits were taken: their type, and how their reading is shown. -/
  | fetched (contentType : Option String) (drain : Drain)
  | response (r : Response)
  /-- The body of a response broke off. -/
  | broken (r : Response) (reason : String)
  /-- A response whose body has not been read. -/
  | held (r : Response)
  | cancelled

/-- A call: its name, what it does, and what it has come to. -/
structure Call where
  name : String
  work : Work
  result : Option Result
  told : Bool

/-- A call whose delegation hangs, or no longer does. -/
def Call.hanging (h : Bool) (c : Call) : Call :=
  match c.work with
  | .upload id u _ request => { c with work := .upload id u h request }
  | _ => c

/-- An observer of the log of a build. -/
structure Subscription where
  name : String
  id : BuildId
  observer : Nat

/-- The broker with its clock, its callers and its executor. -/
structure State where
  coordinator : Coordinator
  now : Nat
  calls : List Call
  held : List (String × Held)
  subscriptions : List Subscription
  verdicts : List Verdict
  /-- The verdict of the executor once the script is over. -/
  usual : Verdict
  /-- What the executor answers to requests that are passed on. -/
  relayAnswer : Except ExecutorError RelayAnswer
  submitted : List Delegation
  relayed : List RelayRequest

/-- One step of a session. -/
inductive Step where
  | create (s : Submission)
  | get (id : String)
  | list
  | size
  | settings
  | describe
  | recordResult (id status : String)
  | result (id : String)
  | hijackEndpoint (id : String)
  | log (id : String)
  | slot (id : String)
  | abort (id method : String) (contentType : Option String) (body : Bytes)
  | upload (name id : String) (p : Payload)
  | fetch (name id : String)
  | read (name : String) (limit : Option Nat)
  | drop (name : String)
  | cancel (name : String)
  | setStatus (id status : String)
  | setPhase (id : String) (p : Phase)
  | beginDelegation (id : String)
  | setSession (id : String) (e : SessionEndpoints)
  | complete (id status : String)
  | append (id : String) (chunk : Bytes)
  | closeLog (id : String)
  | subscribe (name id : String)
  | unsubscribe (name : String)
  | receive (name : String) (limit : Option Nat)
  | verdict (v : Verdict)
  | answerRelays (a : Except ExecutorError RelayAnswer)
  | submitted
  | relayed
  | advance (ms : Nat)
  | request (name : String) (r : Option Request) (hold : Bool)

/-- What a step answers at once. -/
inductive Reply where
  | nothing
  | record (r : BuildRecord)
  | failed (e : CoordinatorError)
  | badId (e : BuildError)
  | ids (ids : List BuildId)
  | size (n : Nat)
  | settings (s : CoordinatorSettings)
  | text (s : String)
  | result (r : BuildResult)
  | url (u : Url)
  | log (ch : Log.Channel)
  | flag (b : Bool)
  | relayed (a : RelayAnswer)
  | read (chunks : List Bytes) (e : Build.ReadEnd)
  | nothingHeld
  | notRunning
  | received (r : Log.Received)
  | delegations (ds : List Delegation)
  | relays (rs : List RelayRequest)
  | badRequest

/-! ## Ids and times -/

/-- The id of the build that is registered as number `n`. -/
def idOf (n : Nat) : BuildId :=
  ⟨BitVec.ofNat 128 (0x5e1f0a7c3b924d86a15c000000000000 + n)⟩

/-- The moment that the session starts at. -/
def startOfTime : Time.Instant := ⟨⟨2026, 1, 1⟩, 0, 0⟩

namespace State

/-- A broker without builds, and an executor with a script. -/
def start (settings : CoordinatorSettings) (verdicts : List Verdict) (usual : Verdict) : State where
  coordinator := ⟨settings, .empty⟩
  now := 0
  calls := []
  held := []
  subscriptions := []
  verdicts
  usual
  relayAnswer := .ok ⟨200, none, []⟩
  submitted := []
  relayed := []

/-- The context of a request that is made now. -/
def context (s : State) : Context where
  now := s.now
  wallClock := startOfTime
  freshId := idOf s.coordinator.registry.size
  upgradable := false

/-- The build of a name. -/
def build? (s : State) (id : BuildId) : Option Build :=
  s.coordinator.registry.find? id

/-- Changes the build of a name. -/
def modify (s : State) (id : BuildId) (f : Build → Build) : State :=
  { s with coordinator := s.coordinator.modify id f }

/-- Changes a call. -/
def setCall (s : State) (i : Nat) (f : Call → Call) : State :=
  { s with calls := s.calls.modify i f }

/-- Ends a call. -/
def finish (s : State) (i : Nat) (r : Result) : State :=
  s.setCall i fun c => { c with result := some r }

/-! ## The executor -/

/-- The next verdict of the script. -/
def takeVerdict (s : State) : State × Verdict :=
  match s.verdicts with
  | v :: rest => ({ s with verdicts := rest }, v)
  | [] => (s, s.usual)

/-- The executor answers the delegation of an upload. -/
def answer (s : State) (i : Nat) (id : BuildId) (u : Nat)
    (r : Except ExecutorError SessionEndpoints) : State :=
  (s.modify id (·.answerUpload u r)).setCall i (Call.hanging false)

/-- The executor makes up its mind about the delegation of an upload. -/
def judge (s : State) (i : Nat) (id : BuildId) (u : Nat) : State :=
  let (s, v) := s.takeVerdict
  match v with
  | .accept e => s.answer i id u (.ok e)
  | .reject status => s.answer i id u (.error (.rejected status))
  | .unreachable => s.answer i id u (.error (.unreachable none))
  | .hang => s.setCall i (Call.hanging true)

/-- Passes a request on to the executor. -/
def relay (s : State) (r : RelayRequest) : State × Except ExecutorError RelayAnswer :=
  ({ s with relayed := s.relayed ++ [r] }, s.relayAnswer)

/-- Every delegation that hangs gets the next verdict, in the order of the calls. -/
def wakeHanging (s : State) : State :=
  s.calls.zipIdx.foldl (fun s (c, i) =>
    match c.work, c.result with
    | .upload id u true _, none => s.judge i id u
    | _, _ => s) s

/-! ## What is held -/

/-- Leaves something that was taken. -/
def leave (s : State) : Held → State
  | .bits id ticket => s.modify id (·.leaveBits ticket)
  | .body _ => s

/-- Keeps something under a name; what the name held before is left. -/
def hold (s : State) (name : String) (h : Held) : State :=
  let s := match s.held.find? (·.1 = name) with
    | some (_, old) => s.leave old
    | none => s
  { s with held := (name, h) :: s.held.filter (·.1 ≠ name) }

/-- Reads at most so many chunks of a body. -/
def readBody (b : Body) : Nat → Body × List Bytes × Build.ReadEnd
  | 0 => (b, [], .more)
  | n + 1 =>
    match b.poll with
    | (b, .chunk chunk) =>
      let (b, chunks, e) := readBody b n
      (b, chunk :: chunks, e)
    | (b, .pending) => (b, [], .pending)
    | (b, .finished) => (b, [], .finished)
    | (b, .failure reason) => (b, [], .failure reason)

/-- Reads bits to where they stop. -/
def readOn (s : State) (id : BuildId) (ticket : Nat) (limit : Option Nat) :
    State × List Bytes × Build.ReadEnd :=
  match s.build? id with
  | none => (s, [], .finished)
  | some b =>
    let (b, chunks, e) := b.readBits ticket (limit.getD (b.beyondBits ticket))
    (s.modify id fun _ => b, chunks, e)

/-! ## Turns -/

/-- A response as it is sent to a caller who may have asked for the head alone. -/
def forCaller (head : Bool) (r : Response) : Response :=
  if head then r.withoutBody else r

/-- The next turn of an upload. -/
def uploadTurn? (i : Nat) (id : BuildId) (u : Nat) (hanging request : Bool) (s : State) :
    Option State :=
  match s.coordinator.uploadProgress s.now id u with
  | .moved c => some { s with coordinator := c }
  | .waits => none
  | .reached (.asks d) =>
    if hanging then none
    else
      let s := { s with submitted := s.submitted ++ [d] }
      some (s.judge i id u)
  | .reached (.ended r) =>
    let result : Result :=
      if request then .response (uploadAnswer r)
      else match r with
        | .ok record => .record record
        | .error e => .failed e
    some (s.finish i result)

/-- The next turn of a fetch; `taken` says what is done with bits that it takes. -/
def fetchTurn? (i : Nat) (id : BuildId) (f : Nat) (request : Bool)
    (taken : Nat → Reader → State → State) (s : State) : Option State :=
  match s.coordinator.fetchProgress s.now id f with
  | .moved c => some { s with coordinator := c }
  | .waits => none
  | .reached (.took t r) => some (taken t r s)
  | .reached .timedOut =>
    let e := CoordinatorError.bitsTimedOut
    some (s.finish i (if request then .response (.ofError e) else .failed e))

/-- The next turn of a call. -/
def turn? (i : Nat) (s : State) : Option State := do
  let call ← s.calls[i]?
  if call.result.isSome then none
  else match call.work with
    | .upload id u hanging request => uploadTurn? i id u hanging request s
    | .fetch id f =>
      fetchTurn? i id f false
        (fun t r s => (s.hold call.name (.bits id t)).finish i (.fetched r.contentType r.drain)) s
    | .fetchRequest id f head hold =>
      fetchTurn? i id f true (fun t r s =>
        let answer := bitsHead r.contentType
        if head then (s.modify id (·.leaveBits t)).finish i (.response answer)
        else if hold then (s.hold call.name (.bits id t)).finish i (.held answer)
        else s.setCall i fun c => { c with work := .reading id t answer [] }) s
    | .reading id t head chunks =>
      let (s', more, e) := s.readOn id t none
      let all := chunks ++ more
      match e with
      | .finished => some (s'.finish i (.response { head with body := all.flatten }))
      | .failure reason => some (s'.finish i (.broken { head with body := all.flatten } reason))
      | .pending | .more =>
        if more.isEmpty then none
        else some (s'.setCall i fun c => { c with work := .reading id t head all })
    | .stuck => none

/-- Lets all calls run until they wait. -/
def settle (s : State) : State :=
  let fuel := fuelFor s.calls.length
  Scenario.settle turn? (List.range s.calls.length) fuel fuel s

/-- The deadlines that calls wait for. -/
def deadlines (s : State) : List Nat :=
  s.coordinator.registry.builds.flatMap (·.bits.deadlines)

/-- Sets the clock and lets all calls run. -/
def atTime (now : Nat) (s : State) : State :=
  settle { s with now }

/-! ## Steps -/

/-- Starts a call. -/
def startCall (s : State) (name : String) (w : Work) : State :=
  { s with calls := s.calls ++ [⟨name, w, none, false⟩] }

/-- A call that is over at once. -/
def endedCall (s : State) (name : String) (r : Result) : State :=
  { s with calls := s.calls ++ [⟨name, .stuck, some r, false⟩] }

/-- Ends a request by its response. -/
def respond (s : State) (name : String) (head hold : Bool) (r : Response) : State :=
  let r := forCaller head r
  if hold then (s.endedCall name (.held r)).hold name (.body (.ofBytes r.body))
  else s.endedCall name (.response r)

/-- Starts a call for what the answer to a request waits for. What goes on outside the broker has no
end here. -/
def await (s : State) (name : String) (head hold : Bool) : Pending → State
  | .done a => s.respond name head hold a
  | .upload id u => s.startCall name (.upload id u false true)
  | .fetch id f => s.startCall name (.fetchRequest id f head hold)
  | .stuck | .relay _ | .tunnel _ | .socket _ _ => s.startCall name .stuck

/-- Starts a request. -/
def startRequest (s : State) (name : String) (r : Request) (hold : Bool) : State :=
  let (coordinator, p) := Http.receive s.context s.coordinator r
  let s := { s with coordinator }
  match p with
  | .relay q =>
    let (s, a) := s.relay q
    s.respond name r.isHead hold (Http.relayAnswer a)
  | .tunnel url =>
    -- nothing listens in a session
    let e : TunnelError := if url.host?.isNone then .noHost url else .unreachable
    s.respond name r.isHead hold e.response
  | p => s.await name r.isHead hold p

/-- Gives up a call. -/
def cancelCall (s : State) (i : Nat) (c : Call) : State :=
  let s := match c.work with
    | .upload id u _ _ => s.modify id (·.dropUpload u)
    | .fetch id f | .fetchRequest id f _ _ =>
      s.modify id fun b => { b with bits := b.bits.cancelFetch f }
    | .reading id t _ _ => s.modify id (·.leaveBits t)
    | .stuck => s
  s.finish i .cancelled

/-- A change of one record through the registry. -/
def change (s : State) (raw : String) (x : RecordChange) : State × Reply :=
  match BuildId.ofText raw with
  | .error e => (s, .badId e)
  | .ok id =>
    match s.coordinator.registry.perform (.change id x) with
    | .error e => (s, .failed (.registry e))
    | .ok (registry, record) =>
      ({ s with coordinator := { s.coordinator with registry } }, .record record)

/-- A question about one build. -/
def ask (s : State) (raw : String) (f : BuildId → Except CoordinatorError (State × Reply)) :
    State × Reply :=
  match BuildId.ofText raw with
  | .error e => (s, .badId e)
  | .ok id =>
    match f id with
    | .ok r => r
    | .error e => (s, .failed e)

/-- A question about one build that is there. -/
def askBuild (s : State) (raw : String) (f : Build → State × Reply) : State × Reply :=
  s.ask raw fun id => (Coordinator.ofRegistry (s.coordinator.registry.get id)).map f

/-- The words that show a broker. -/
def describe (s : State) : String :=
  "AppState \x7b peer_addr: " ++ Text.quote s.coordinator.settings.peer ++ ", builds: "
    ++ toString s.coordinator.registry.size ++ ", .. \x7d"

/-- Takes one step; calls have not been moved on yet. -/
def step (s : State) : Step → State × Reply
  | .create submission =>
    match s.coordinator.create s.context.freshId s.context.wallClock submission with
    | .ok (coordinator, record) => ({ s with coordinator }, .record record)
    | .error e => (s, .failed e)
  | .get raw => s.askBuild raw fun b => (s, .record b.record)
  | .list => (s, .ids (s.coordinator.registry.list.map (·.id)))
  | .size => (s, .size s.coordinator.registry.size)
  | .settings => (s, .settings s.coordinator.settings)
  | .describe => (s, .text s.describe)
  | .recordResult raw status =>
    s.ask raw fun id => do
      let (coordinator, r) ← s.coordinator.recordResult id ⟨status⟩
      return ({ s with coordinator }, .result r)
  | .result raw => s.ask raw fun id => do return (s, .result (← s.coordinator.result id))
  | .hijackEndpoint raw =>
    s.ask raw fun id => do return (s, .url (← s.coordinator.endpoint id .hijack))
  | .log raw => s.askBuild raw fun b => (s, .log b.log)
  | .slot raw => s.askBuild raw fun b => (s, .flag b.bits.isOccupied)
  | .abort raw method contentType body =>
    s.ask raw fun id => do
      let url ← s.coordinator.endpoint id .abort
      let (s, a) := s.relay ⟨url, method, contentType, body⟩
      return match a with
        | .ok a => (s, .relayed a)
        | .error e => (s, .failed (.executor e))
  | .upload name raw p =>
    s.ask raw fun id =>
      match s.coordinator.startUpload id p with
      | .ok (coordinator, u) =>
        .ok (({ s with coordinator } : State).startCall name (.upload id u false false), .nothing)
      | .error e => .ok (s.endedCall name (.failed e), .nothing)
  | .fetch name raw =>
    s.ask raw fun id =>
      match s.coordinator.startFetch id s.now with
      | .ok (coordinator, f) =>
        .ok (({ s with coordinator } : State).startCall name (.fetch id f), .nothing)
      | .error e => .ok (s.endedCall name (.failed e), .nothing)
  | .read name limit =>
    match s.held.find? (·.1 = name) with
    | none => (s, .nothingHeld)
    | some (_, .bits id t) =>
      let (s, chunks, e) := s.readOn id t limit
      (s, .read chunks e)
    | some (_, .body b) =>
      let (b, chunks, e) := readBody b (limit.getD (b.items.length + 1))
      ({ s with held := (name, .body b) :: s.held.filter (·.1 ≠ name) }, .read chunks e)
  | .drop name =>
    match s.held.find? (·.1 = name) with
    | none => (s, .nothingHeld)
    | some (_, h) => ({ s.leave h with held := s.held.filter (·.1 ≠ name) }, .nothing)
  | .cancel name =>
    match (s.calls.zipIdx.reverse.find? fun c => c.1.name = name && c.1.result.isNone) with
    | none => (s, .notRunning)
    | some (c, i) => (s.cancelCall i c, .nothing)
  | .setStatus raw status => s.change raw (.status status)
  | .setPhase raw p => s.change raw (.phase p)
  | .beginDelegation raw => s.change raw .delegation
  | .setSession raw e => s.change raw (.session e)
  | .complete raw status => s.change raw (.result status)
  | .append raw chunk =>
    s.askBuild raw fun b =>
      let (b, accepted) := b.append chunk
      (s.modify b.id fun _ => b, .flag accepted)
  | .closeLog raw =>
    s.askBuild raw fun b =>
      match b.log.close? with
      | some log => (s.modify b.id fun b => { b with log }, .flag true)
      | none => (s, .flag false)
  | .subscribe name raw =>
    s.askBuild raw fun b =>
      let (log, observer) := b.log.subscribe
      let s := s.modify b.id fun b => { b with log }
      ({ s with
        subscriptions := ⟨name, b.id, observer⟩ :: s.subscriptions.filter (·.name ≠ name) },
        .nothing)
  | .unsubscribe name =>
    match s.subscriptions.find? (·.name = name) with
    | none => (s, .nothing)
    | some x =>
      let s := s.modify x.id fun b => { b with log := b.log.leave x.observer }
      ({ s with subscriptions := s.subscriptions.filter (·.name ≠ name) }, .nothing)
  | .receive name limit =>
    match s.subscriptions.find? (·.name = name) with
    | none => (s, .nothingHeld)
    | some x =>
      match s.build? x.id with
      | none => (s, .nothingHeld)
      | some b =>
        let (log, r) := b.log.receive x.observer limit
        (s.modify x.id fun b => { b with log }, .received r)
  | .verdict v => (wakeHanging { s with verdicts := s.verdicts ++ [v] }, .nothing)
  | .answerRelays a => ({ s with relayAnswer := a }, .nothing)
  | .submitted => (s, .delegations s.submitted)
  | .relayed => (s, .relays s.relayed)
  | .advance ms =>
    (Scenario.advance deadlines atTime (s.now + ms) (s.deadlines.length + s.calls.length + 1) s,
      .nothing)
  | .request _ none _ => (s, .badRequest)
  | .request name (some r) hold => (s.startRequest name r hold, .nothing)

end State

/-- How a build stands. -/
structure BuildView where
  phase : Phase
  status : Option String
  session : Bool
  log : Log.Channel
  occupied : Bool

/-- A step's answer: the reply, the calls that ended and those that are under way, in the order of
their start, and how the builds stand. -/
structure Answer where
  reply : Reply
  done : List (String × Result)
  pending : List String
  builds : List BuildView

/-- How a build stands. -/
def viewOf (b : Build) : BuildView :=
  ⟨b.record.phase, b.record.status, b.record.session.isSome, b.log, b.bits.isOccupied⟩

/-- Plays one step of a session. -/
def play (s : State) (step : Step) : State × Answer :=
  let (s, reply) := s.step step
  let s := s.settle
  let done := s.calls.filterMap fun c =>
    if c.told then none else c.result.map fun r => (c.name, r)
  let pending := (s.calls.filter (·.result.isNone)).map (·.name)
  let s := { s with calls := s.calls.map fun c => { c with told := c.result.isSome } }
  (s, ⟨reply, done, pending, s.coordinator.registry.builds.map viewOf⟩)

end BuildBroker.Scenario.Session
