import BuildBroker.Http.Status
import BuildBroker.Tunnel.Open

/-!
# An Executor Service

An executor that is reached over the network and answers every path by a script. Where it switches
protocols it becomes a line echo: a line is sent back with a mark before it, and two lines end the
session.
-/

namespace BuildBroker.Scenario

open Http Executor

/-! ## The script -/

/-- What the service does with a request. -/
inductive ServiceAct where
  /-- It answers. The body is announced with so many octets more than are sent. -/
  | answer (status : Nat) (headers : Headers) (body : Bytes) (missing : Nat)
  /-- It reads the request and closes the connection. -/
  | close
  /-- It never answers. -/
  | stall

/-- A request that has reached the service. -/
structure Received where
  method : String
  target : String
  headers : Headers
  body : Bytes

/-- The service: where it listens, what it does with requests to a path, and which have come. -/
structure Service where
  host : String
  port : Nat
  script : List (String × ServiceAct)
  log : List Received

namespace Service

/-- Whether the service listens at a port of a host. -/
def listens (s : Service) (host : String) (port : Nat) : Bool :=
  host = s.host && port = s.port

/-- The path of a target. -/
def pathOf (target : String) : String :=
  String.ofList (target.toList.takeWhile (· ≠ '?'))

/-- Whether an answer to a request by the method has a body. -/
def hasBody (method : String) (status : Nat) : Bool :=
  method ≠ "HEAD" && 200 ≤ status && status ≠ 204 && status ≠ 304

/-- An answer as it comes in. What follows the head of an answer that switches protocols is no body,
but has been sent all the same. -/
def answer (method : String) (status : Nat) (reason : String) (headers : Headers) (body : Bytes)
    (missing : Nat) : Answer :=
  if status = Tunnel.switchedStatus then ⟨status, reason, headers, body, true⟩
  else
    let headers := headers ++
      [Header.mk "connection" (Bytes.ofText "close"),
       Header.mk "content-length" (Bytes.ofText (toString (body.length + missing)))]
    if hasBody method status then ⟨status, reason, headers, body, missing = 0⟩
    else ⟨status, reason, headers, [], true⟩

/-- What the script says about a target. -/
def act? (s : Service) (target : String) : Option ServiceAct :=
  (s.script.find? (·.1 = pathOf target)).map (·.2)

/-- What becomes of a request that reaches the service. -/
def reply (s : Service) (method target : String) : Reply :=
  match s.act? target with
  | none => .answer (answer method 404 (statusWord 404) [] [] 0)
  | some (.answer status headers body missing) =>
    .answer (answer method status "X" headers body missing)
  | some .close => .dropped
  | some .stall => .silent

/-- What becomes of a request of the broker's client. -/
def replyTo (s : Service) (o : Outgoing) : Reply :=
  match o.url.host?, o.url.effectivePort? with
  | some host, some port =>
    if o.url.scheme = "http" && s.listens host.toText port then
      match s.reply o.method (Tunnel.requestTarget o.url) with
      -- nobody waits for what follows the head
      | .answer a => .answer (if a.status = Tunnel.switchedStatus then { a with body := [] } else a)
      | r => r
    else .refused
  | _, _ => .refused

/-- Notes a request. -/
def note (s : Service) (r : Received) : Service :=
  { s with log := s.log ++ [r] }

/-- Notes the requests of the broker's client that have reached the service. -/
def noteSent (s : Service) (sent : List Outgoing) : Service :=
  sent.foldl (fun s o =>
    match s.replyTo o with
    | .refused => s
    | _ => s.note ⟨o.method, Tunnel.requestTarget o.url, o.allHeaders, o.body⟩) s

/-- The octets of a body. -/
def octetsOf (b : Body) : Bytes :=
  b.items.flatMap fun
    | .chunk b => b
    | _ => []

/-- Notes a caller's request for a tunnel. -/
def noteForwarded (s : Service) (x : Tunnel.Forwarded) : Service :=
  s.note ⟨x.method, x.target, x.headers, octetsOf x.body⟩

end Service

/-! ## The echo -/

/-- A session of the line echo. -/
structure Echo where
  /-- The lines that have come, with their ends. -/
  lines : List Bytes
  /-- What has come of the next line. -/
  unfinished : Bytes
  /-- Whether it still listens. -/
  listening : Bool
deriving DecidableEq, Repr

namespace Echo

/-- A session in which nothing has come. -/
def start : Echo := ⟨[], [], true⟩

/-- What a line is answered with. -/
def answerTo (line : Bytes) : Bytes :=
  if line = Bytes.ofText "exit" then []
  else if line = Bytes.ofText "bye" then Bytes.ofText "bye\n"
  else Bytes.ofText "echo:" ++ line ++ [0x0A]

/-- Whether a line ends the session. -/
def endsAt (line : Bytes) : Bool :=
  line = Bytes.ofText "exit" || line = Bytes.ofText "bye"

/-- Hears octets, and answers the lines that they complete. -/
def hear (e : Echo) : Bytes → Echo × Bytes
  | [] => (e, [])
  | b :: rest =>
    if !e.listening then (e, [])
    else if b = 0x0A then
      let line := e.unfinished
      let (e, more) := hear ⟨e.lines ++ [line ++ [b]], [], !endsAt line⟩ rest
      (e, answerTo line ++ more)
    else hear { e with unfinished := e.unfinished ++ [b] } rest

/-- The lines of a session that is over, also an unfinished one. -/
def finish (e : Echo) : List Bytes :=
  e.lines ++ (if e.unfinished.isEmpty then [] else [e.unfinished])

end Echo

end BuildBroker.Scenario
