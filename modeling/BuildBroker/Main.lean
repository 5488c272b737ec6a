import BuildBroker.CommandLine.Startup
import BuildBroker.Coordinator.Progress
import BuildBroker.Executor.Wire
import BuildBroker.Http.Upgrade
import BuildBroker.Log.Framing
import BuildBroker.Tunnel.Open
import Std.Async.DNS
import Std.Async.Signal
import Std.Async.TCP
import Std.Async.Timer

/-!
# The Program

The part of the broker that touches the world: files, the clock, connections and signals. What
arrives is handed to the rules of the other modules, and what they say is carried out; nothing is
decided here.
-/

namespace BuildBroker.Program

open Std.Async Http

/-! ## Connections -/

/-- A connection, to a caller or to the executor. -/
abbrev Connection := TCP.Socket.Client

/-- How many octets are read at once. -/
def readSize : UInt64 := 65536

/-- How long a call that waits sleeps before it looks again, in milliseconds. -/
def napTime : Std.Time.Millisecond.Offset := 5

/-- Sends octets. -/
def write (x : Connection) (b : Bytes) : Async Unit :=
  if b.isEmpty then pure () else x.send (ByteArray.mk b.toArray)

/-- The next octets; `none` at the end. -/
def read (x : Connection) : Async (Option Bytes) := do
  return (← x.recv? readSize).map fun b => b.toList

/-- Tells the other end that nothing more comes; it may be gone already. -/
def hangUp (x : Connection) : Async Unit := do
  try x.shutdown catch _ => pure ()

/-- Something, unless it takes too many milliseconds or fails. -/
def within {α : Type} (limit : Nat) (x : Async α) : Async (Option α) := do
  let late : Async (Option α) := do
    sleep (Std.Time.Millisecond.Offset.ofNat limit)
    return none
  try EAsync.race (do return some (← x)) late catch _ => return none

/-- The address of a host and a port. -/
def socketAddress (ip : Net.Ip) (port : Nat) : Std.Net.SocketAddress :=
  match ip with
  | .v4 a => .v4 ⟨⟨Vector.ofFn fun i => UInt8.ofNat (a.octets.getD i 0)⟩, port.toUInt16⟩
  | .v6 a => .v6 ⟨⟨Vector.ofFn fun i => UInt16.ofNat (a.groups.getD i 0)⟩, port.toUInt16⟩

/-- The addresses of a host, which is given by name or by number. -/
def addresses (host : String) (port : Nat) : Async (List Std.Net.SocketAddress) := do
  match Net.Ip.ofChars? host.toList with
  | some ip => return [socketAddress ip port]
  | none =>
    let found ← DNS.getAddrInfo host (toString port)
    return found.toList.map fun
      | .v4 a => .v4 ⟨a, port.toUInt16⟩
      | .v6 a => .v6 ⟨a, port.toUInt16⟩

/-- A connection to a host, if it can be reached. -/
def dial (host : String) (port : Nat) : Async (Option Connection) := do
  try
    for address in ← addresses host port do
      let x ← TCP.Socket.Client.mk
      try
        x.connect address
        return some x
      catch _ => pure ()
    return none
  catch _ => return none

/-! ## Asking the executor -/

/-- Reads what becomes of a request that has been sent. -/
partial def readReply (x : Connection) (method : String) (got : Bytes) : Async Executor.Reply := do
  let piece ← try read x catch _ => pure none
  let got := got ++ piece.getD []
  match Executor.Reply.read? method piece.isNone got with
  | some reply => return reply
  | none => readReply x method got

/-- Sends a request. Only plain connections are made. -/
def ask (o : Executor.Outgoing) : Async Executor.Reply := do
  match o.url.scheme, o.url.host? with
  | "http", some host =>
    let name := match host with
      | .ipv6 a => a.toText
      | host => host.toText
    match ← dial name (o.url.effectivePort?.getD Tunnel.fallbackPort) with
    | none => return .refused
    | some x =>
      try
        write x o.toBytes
        readReply x o.method []
      catch _ => return .dropped
  | _, _ => return .refused

/-- Sends a request and follows the references in the answers. -/
def follow (o : Executor.Outgoing) : (limit : Nat) → Async Executor.Outcome
  | 0 => return .failed
  | limit + 1 => do
    match Executor.turn o (← ask o) with
    | .settled x => return x
    | .onward o => follow o limit

/-- What comes of a request in the end, in a given reading of answers. -/
def exchange {α : Type} (limit : Nat) (read : Executor.Answer → Except ExecutorError α)
    (o : Executor.Outgoing) : Async (Except ExecutorError α) := do
  let outcome ←
    if Executor.isWebScheme o.url.scheme then within limit (follow o (Executor.followLimit + 1))
    else pure none
  return ((outcome.getD .failed).read? read).getD (.error (.unreachable none))

/-! ## The broker -/

/-- What all connections share. -/
structure Broker where
  settings : Config.Settings
  coordinator : IO.Ref Coordinator

namespace Broker

/-- Moves a call on until it comes to something. -/
partial def await {α : Type} (b : Broker) (progress : Coordinator → Nat → Progress α) :
    Async α := do
  let now ← IO.monoMsNow
  let p ← b.coordinator.modifyGet fun c =>
    match progress c now with
    | .moved c => (.moved c, c)
    | p => (p, c)
  match p with
  | .reached a => return a
  | .moved _ => b.await progress
  | .waits =>
    sleep napTime
    b.await progress

/-- Changes the log of a build. -/
def onLog {α : Type} (b : Broker) (id : BuildId) (f : Log.Channel → α × Log.Channel) :
    Async (Option α) :=
  b.coordinator.modifyGet fun c =>
    match c.registry.find? id with
    | none => (none, c)
    | some x =>
      let (a, log) := f x.log
      (some a, c.modify id fun x => { x with log })

/-- The surroundings of a request that arrives now. -/
def context : Async Context := do
  let time ← Std.Time.Timestamp.now
  let nanoseconds := time.toNanosecondsSinceUnixEpoch.toInt.toNat
  let random ← IO.getRandomBytes 16
  return {
    now := ← IO.monoMsNow
    wallClock := .ofEpoch (nanoseconds / Time.Instant.secondNanos)
      (nanoseconds % Time.Instant.secondNanos)
    freshId := .ofRandom (Bytes.toNumber random.toList)
    upgradable := true }

/-- Carries an upload to its end. -/
partial def upload (b : Broker) (id : BuildId) (u : Nat) : Async Response := do
  match ← b.await fun c now => c.uploadProgress now id u with
  | .ended r => return uploadAnswer r
  | .asks d =>
    let o := Executor.Outgoing.ofDelegation b.settings.buildsUrl d
    let verdict ← exchange b.settings.executorTimeout Executor.Answer.verdict o
    b.coordinator.modify fun c => c.modify id (·.answerUpload u verdict)
    b.upload id u

/-- Carries a fetch to its end. -/
def fetch (b : Broker) (id : BuildId) (f : Nat) (head : Bool) : Async Response := do
  match ← b.await fun c now => c.fetchProgress now id f with
  | .timedOut => return lateFetchAnswer
  | .took ticket x =>
    b.coordinator.modifyGet fun c =>
      let (c, r) := handBits c id ticket x head
      (r, c)

/-! ## Tunnels -/

/-- Carries everything that comes from one connection to another. -/
partial def carry (source sink : Connection) : Async Unit := do
  match ← read source with
  | none => return
  | some b =>
    write sink b
    carry source sink

/-- Joins two connections until either ends. -/
def splice (caller executor : Connection) : Async Unit := do
  try EAsync.race (carry caller executor) (carry executor caller) catch _ => pure ()
  hangUp caller
  hangUp executor

/-- Tries to open a tunnel for a request. -/
def openTunnel (u : Url) (r : Request) : Async (Tunnel.Opening × Option Connection) := do
  let far ← match u.host? with
    | some host => dial host.toText (u.effectivePort?.getD Tunnel.fallbackPort)
    | none => pure none
  match Tunnel.openTunnel (fun _ _ => far.isSome) (fun _ => .silent) u r, far with
  | (some x, _), some far =>
    write far x.toBytes
    let reply ← readReply far x.method []
    return (.ofReply reply, some far)
  | (_, o), _ => return (o, none)

/-! ## Log sockets -/

/-- Takes frames in from a producer until it leaves or its log is closed. -/
partial def listen (b : Broker) (x : Connection) (id : BuildId) (p : Log.Producer)
    (part : Log.Partial) (got : Bytes) : Async Unit := do
  match part.take got with
  | .malformed => return
  | .unfinished =>
    match ← read x with
    | none => return
    | some more => b.listen x id p part (got ++ more)
  | .taken (part, none) rest => b.listen x id p part rest
  | .taken (part, some frame) rest =>
    let heard ← b.onLog id fun log =>
      let (p, log, replies) := p.receive log frame
      ((p, replies), log)
    match heard with
    | none => return
    | some (p, replies) =>
      for reply in replies do write x reply.toBytes
      if p.listening then b.listen x id p part rest

/-- Keeps the frames of a follower until the broker looks at them; `none` is its end. -/
partial def hear (x : Connection) (inbox : IO.Ref (List (Option Log.Frame))) (part : Log.Partial)
    (got : Bytes) : Async Unit := do
  match part.take got with
  | .malformed => inbox.modify (· ++ [none])
  | .unfinished =>
    match ← try read x catch _ => pure none with
    | none => inbox.modify (· ++ [none])
    | some more => hear x inbox part (got ++ more)
  | .taken (part, frame) rest =>
    if frame.isSome then inbox.modify (· ++ [frame])
    hear x inbox part rest

/-- Sends a log to a follower until one of them ends. -/
partial def tell (b : Broker) (x : Connection) (id : BuildId) (w : Log.Follower)
    (inbox : IO.Ref (List (Option Log.Frame))) : Async Unit := do
  let frames ← inbox.modifyGet fun frames => (frames, [])
  let told ← b.onLog id fun log =>
    let (w, log, replies) := frames.foldl (fun (w, log, replies) frame =>
      match frame with
      | some frame =>
        let (w, log, more) := Log.Follower.receive w log frame
        (w, log, replies ++ more)
      | none =>
        let (w, log) := Log.Follower.leave w log
        (w, log, replies)) (w, log, [])
    let (w, log, next) := w.turn log
    ((w, replies, next), log)
  match told with
  | none => return
  | some (w, replies, next) =>
    try
      for frame in replies ++ next.toList do write x frame.toBytes
    catch _ => inbox.modify (· ++ [none])
    if w.sending then
      if next.isNone then sleep napTime
      b.tell x id w inbox

/-- Serves a log socket. -/
def socket (b : Broker) (x : Connection) (id : BuildId) (side : LogSide) (rest : Bytes) :
    Async Unit := do
  match side with
  | .input => b.listen x id .connected none rest
  | .output =>
    match ← b.onLog id fun log => (Log.Follower.connect log).swap with
    | none => return
    | some w =>
      let inbox ← IO.mkRef []
      background (hear x inbox none rest)
      b.tell x id w inbox

/-! ## Requests -/

/-- Serves the requests of a connection; `got` is what has come and not been read. -/
partial def serve (b : Broker) (x : Connection) (got : Bytes) : Async Unit := do
  match Arrival.take got with
  | .malformed =>
    write x malformedAnswer.toBytes
    hangUp x
  | .unfinished =>
    match ← read x with
    | none => hangUp x
    | some more => b.serve x (got ++ more)
  | .taken a rest =>
    let r := a.request
    let context ← context
    let pending ← b.coordinator.modifyGet fun c =>
      let (c, p) := Http.receive context c r
      (p, c)
    let answer (response : Response) (words : Option String) : Async Unit := do
      let response := if r.isHead then response.withoutBody else response
      write x (response.shown a.minor a.isLast r.isHead words).toBytes
    let next : Async Unit := if a.isLast then hangUp x else b.serve x rest
    match pending with
    | .done response => answer response none; next
    | .stuck => hangUp x
    | .upload id u => answer (← b.upload id u) none; next
    | .fetch id f => answer (← b.fetch id f r.isHead) none; next
    | .relay q =>
      let reply ← exchange b.settings.executorTimeout Executor.Answer.relayed (.ofRelay q)
      answer (relayAnswer reply) none
      next
    | .tunnel u =>
      match ← openTunnel u r with
      | (.opened headers early, some far) =>
        answer ⟨Tunnel.switchedStatus, headers, []⟩ none
        write x early
        write far rest
        splice x far
      | (.declined d, _) => answer ⟨d.status, d.headers, d.body⟩ (some d.reason); next
      | (o, _) =>
        match o.response? with
        | some response => answer response none; next
        | none => hangUp x
    | .socket id side =>
      answer (socketAnswer r) none
      b.socket x id side rest
      hangUp x

/-- Serves a connection that may break at any time. -/
def attend (b : Broker) (x : Connection) : Async Unit := do
  try b.serve x [] catch _ => hangUp x

/-- Takes connections on. -/
partial def accept (b : Broker) (door : TCP.Socket.Server) : Async Unit := do
  let x ← door.accept
  background (b.attend x)
  b.accept door

end Broker

/-! ## Starting -/

/-- Writes an entry with the time. -/
def note (e : Journal.Entry) : Async Unit := do
  let now := (← Broker.context).wallClock
  let output ← IO.getStdout
  output.putStrLn (now.toText ++ " " ++ e.line)
  output.flush

/-- Waits for one of the signals. -/
def signalled (signals : List Signal) : Async Unit := do
  let tasks ← signals.mapM fun s => do (← Signal.Waiter.mk s false).wait
  EAsync.raceAll (tasks.toArray.map fun t => do discard (await t))

/-- Serves until a signal comes; also the exit code. -/
def run (filter : Journal.Filter) (settings : Config.Settings) : Async UInt32 := do
  let note (e : Journal.Entry) : Async Unit := if filter.admits e then note e else pure ()
  let door ← TCP.Socket.Server.mk
  let listen := settings.listen
  try
    door.bind (socketAddress listen.ip listen.port)
    door.listen 1024
  catch e =>
    IO.eprintln (CommandLine.bindReport listen (toString e))
    return CommandLine.failureCode.toUInt32
  let port := (← door.getSockName).port.toNat
  note (CommandLine.listeningEntry { listen with port }.toText)
  let coordinator ← IO.mkRef ⟨CommandLine.coordinatorSettings settings, .empty⟩
  background (Broker.accept ⟨settings, coordinator⟩ door)
  signalled [.sigterm, .sigint]
  CommandLine.endEntries.forM note
  return 0

/-- The variable that an entry `NAME=value` of the environment sets. -/
def readVariable? (entry : String) : Option (String × String) :=
  match entry.splitOn "=" with
  | name :: value :: more => some (name, String.intercalate "=" (value :: more))
  | _ => none

/-- The environment of the program. Where its entries cannot be listed it is empty. -/
def readEnvironment : IO Env := do
  let block ← try IO.FS.readBinFile "/proc/self/environ" catch _ => pure .empty
  let text := (Bytes.toText? block.toList).getD ""
  return Env.ofPairs ((text.splitOn "\x00").filterMap readVariable?)

/-- A file, if one can be read there. -/
def readFile? (path : String) : IO (Option (String × Bytes)) := do
  try
    let content ← IO.FS.readBinFile path
    return some (path, content.toList)
  catch _ => return none

/-- The files among the paths. -/
def readFiles (paths : List String) : IO Config.FileTree := do
  return ⟨← paths.filterMapM readFile?, []⟩

/-- All files that loading may look at. -/
def readTree (options : Config.LoadOptions) (env : Env) : IO Config.FileTree := do
  let first ← readFiles [Config.envFilePath options]
  let second ← readFiles (Config.configPaths first options env)
  return ⟨first.files ++ second.files, []⟩

/-- Starts from the command line and serves. -/
def start (arguments : List String) : Async UInt32 := do
  let env ← readEnvironment
  match CommandLine.Arguments.read arguments env with
  | .error .help =>
    (CommandLine.help env).forM (IO.println ·)
    return 0
  | .error refusal =>
    refusal.lines.forM (IO.eprintln ·)
    return refusal.exitCode.toUInt32
  | .ok a =>
    let s := CommandLine.startWith (← readTree a.options env) a env
    s.entries.forM note
    match s.loaded with
    | .error e =>
      IO.eprintln (CommandLine.loadReport e)
      return CommandLine.failureCode.toUInt32
    | .ok l => run s.filter l.settings

end BuildBroker.Program

/-- Runs the program. -/
def main (arguments : List String) : IO UInt32 :=
  (BuildBroker.Program.start arguments).block
