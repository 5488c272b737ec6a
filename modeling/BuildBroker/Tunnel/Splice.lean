import BuildBroker.Text.Bytes

/-!
# Splices

An open tunnel joins two streams of octets. What either side sends is read in pieces of any size and
written to the other side in pieces of any size. As soon as everything that one side sent before its
end has been written, or something fails, the splice is over; then both sides are shut down, and
what the other direction still holds is lost.
-/

namespace BuildBroker.Tunnel

/-- The two sides of a splice. -/
inductive Side where
  | caller
  | executor
deriving DecidableEq, Repr

/-- The opposite side. -/
def Side.other : Side → Side
  | caller => executor
  | executor => caller

/-- One direction of a splice. -/
structure Pipe where
  /-- What the source has sent and nobody has read. -/
  unread : Bytes
  /-- Whether the source sends nothing more. -/
  ended : Bool
  /-- What has been read and not been written. -/
  held : Bytes
  /-- What has been written to the sink. -/
  written : Bytes
deriving DecidableEq, Repr

namespace Pipe

/-- A direction in which nothing has been sent. -/
def empty : Pipe := ⟨[], false, [], []⟩

/-- Everything that the source has sent. -/
def sent (p : Pipe) : Bytes :=
  p.written ++ p.held ++ p.unread

/-- The source sends octets; after its end it cannot. -/
def send (b : Bytes) (p : Pipe) : Pipe :=
  if p.ended then p else { p with unread := p.unread ++ b }

/-- Reads at most `n` octets. -/
def read (n : Nat) (p : Pipe) : Pipe :=
  { p with held := p.held ++ p.unread.take n, unread := p.unread.drop n }

/-- Writes at most `n` octets. -/
def write (n : Nat) (p : Pipe) : Pipe :=
  { p with written := p.written ++ p.held.take n, held := p.held.drop n }

/-- Whether everything up to the end of the source has been written. -/
def isDone (p : Pipe) : Bool :=
  p.ended && p.unread.isEmpty && p.held.isEmpty

/-- Reading and writing lose nothing and change no order. -/
@[simp] theorem sent_read (n : Nat) (p : Pipe) : (p.read n).sent = p.sent := by
  simp [sent, read]

@[simp] theorem sent_write (n : Nat) (p : Pipe) : (p.write n).sent = p.sent := by
  rw [sent, sent, write]
  simp only [List.append_assoc]
  rw [← List.append_assoc (p.held.take n), List.take_append_drop]

end Pipe

/-- A splice. -/
structure Splice where
  fromCaller : Pipe
  fromExecutor : Pipe
  /-- Whether copying is over, in both directions. -/
  finished : Bool
  /-- Whether the sink of each direction has been shut down. -/
  callerShut : Bool
  executorShut : Bool
deriving DecidableEq, Repr

/-- What happens to a splice. -/
inductive SpliceEvent where
  /-- A side sends octets. -/
  | sends (from_ : Side) (b : Bytes)
  /-- A side comes to the end of what it sends. -/
  | hangsUp (from_ : Side)
  /-- Octets that a side has sent are read. -/
  | reads (from_ : Side) (n : Nat)
  /-- Octets that a side has sent are written to the other side. -/
  | writes (from_ : Side) (n : Nat)
  /-- Everything that a side sent up to its end has been written. -/
  | finishes (from_ : Side)
  /-- Reading from a side, or writing what it sent, fails. -/
  | fails (from_ : Side)
  /-- A side is shut down, after the end of copying. -/
  | shuts (side : Side)
deriving DecidableEq, Repr

namespace Splice

/-- A splice through which nothing has gone. -/
def start : Splice := ⟨.empty, .empty, false, false, false⟩

/-- The direction that begins at a side. -/
def pipe (s : Splice) : Side → Pipe
  | .caller => s.fromCaller
  | .executor => s.fromExecutor

/-- Changes the direction that begins at a side. -/
def onPipe (s : Splice) (from_ : Side) (f : Pipe → Pipe) : Splice :=
  match from_ with
  | .caller => { s with fromCaller := f s.fromCaller }
  | .executor => { s with fromExecutor := f s.fromExecutor }

/-- Whether a side has been shut down. -/
def isShut (s : Splice) : Side → Bool
  | .caller => s.callerShut
  | .executor => s.executorShut

/-- Whether the splice has run to its end. -/
def isClosed (s : Splice) : Bool :=
  s.finished && s.callerShut && s.executorShut

/-- What an event does; `none` if it cannot happen now. The sides can send at any time, but nothing
is read or written once copying is over. -/
def step? (s : Splice) : SpliceEvent → Option Splice
  | .sends from_ b => if (s.pipe from_).ended then none else some (s.onPipe from_ (·.send b))
  | .hangsUp from_ => some (s.onPipe from_ fun p => { p with ended := true })
  | .reads from_ n => if s.finished then none else some (s.onPipe from_ (·.read n))
  | .writes from_ n => if s.finished then none else some (s.onPipe from_ (·.write n))
  | .finishes from_ =>
    if !s.finished && (s.pipe from_).isDone then some { s with finished := true } else none
  | .fails _ => if s.finished then none else some { s with finished := true }
  | .shuts .caller => if s.finished then some { s with callerShut := true } else none
  | .shuts .executor => if s.finished then some { s with executorShut := true } else none

/-- What a sequence of events does. -/
def run? (s : Splice) : List SpliceEvent → Option Splice
  | [] => some s
  | e :: es => (s.step? e).bind (·.run? es)

/-- An event, or nothing if it cannot happen now. -/
def happen (e : SpliceEvent) (s : Splice) : Splice :=
  (s.step? e).getD s

/-- Everything that a side has sent is carried over, and a side that is done ends the splice. -/
def carry (from_ : Side) (s : Splice) : Splice :=
  let s := s.happen (.reads from_ (s.pipe from_).unread.length)
  let s := s.happen (.writes from_ (s.pipe from_).held.length)
  ((s.happen (.finishes from_)).happen (.shuts .caller)).happen (.shuts .executor)

end Splice

/-! ## The call that runs a splice -/

/-- How far the call that runs a splice has come. -/
inductive SpliceStage where
  | copying
  /-- Copying is over, and the caller's side is shut down next. -/
  | shuttingCaller
  | shuttingExecutor
  | returned
deriving DecidableEq, Repr

/-- Where an event brings the call; `none` if it is not the turn of the event. What the two sides do
is not up to the call. -/
def SpliceStage.next? : SpliceStage → SpliceEvent → Option SpliceStage
  | stage, .sends _ _ | stage, .hangsUp _ => some stage
  | .copying, .reads _ _ | .copying, .writes _ _ => some .copying
  | .copying, .finishes _ | .copying, .fails _ => some .shuttingCaller
  | .shuttingCaller, .shuts .caller => some .shuttingExecutor
  | .shuttingExecutor, .shuts .executor => some .returned
  | _, _ => none

/-- A splice with the call that runs it. -/
structure SpliceCall where
  splice : Splice
  stage : SpliceStage
deriving DecidableEq, Repr

namespace SpliceCall

/-- A call that has just begun. -/
def start : SpliceCall := ⟨.start, .copying⟩

/-- What an event does; `none` if it cannot happen now. -/
def step? (k : SpliceCall) (e : SpliceEvent) : Option SpliceCall := do
  let splice ← k.splice.step? e
  let stage ← k.stage.next? e
  return ⟨splice, stage⟩

/-- What a sequence of events does. -/
def run? (k : SpliceCall) (events : List SpliceEvent) : Option SpliceCall :=
  events.foldlM step? k

end SpliceCall

end BuildBroker.Tunnel
