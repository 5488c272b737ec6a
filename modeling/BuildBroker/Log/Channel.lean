import BuildBroker.Text.Bytes

/-!
# Log Channels

The log of one build: the chunks appended so far, and any number of observers. An observer that
joins is given the history first and every later chunk after it, through a queue of bounded
capacity. An observer whose queue is full, or who has stopped reading, is cut off by the next
append; closing the channel cuts off all of them. Who is cut off can still read what is queued.
-/

namespace BuildBroker.Log

/-- The chunks appended after an observer subscribed that its queue has room for. -/
def backlog : Nat := 1024

/-- Someone who follows a log. -/
structure Observer where
  /-- How many chunks its queue holds. -/
  capacity : Nat
  /-- The chunks it has been sent and has not received yet. -/
  queue : List Bytes
  /-- The chunks it has received. -/
  taken : List Bytes
  /-- Whether it still reads. -/
  reading : Bool
  /-- Whether it is sent further chunks. -/
  live : Bool
deriving DecidableEq

namespace Observer

/-- Puts a chunk into the queue, if the observer still reads and there is room. -/
def send? (chunk : Bytes) (o : Observer) : Option Observer :=
  if o.reading && o.queue.length < o.capacity then some { o with queue := o.queue ++ [chunk] }
  else none

/-- Sends chunks up to the first that cannot be sent; also whether there was none. -/
def replay (o : Observer) : List Bytes → Observer × Bool
  | [] => (o, true)
  | chunk :: rest =>
    match o.send? chunk with
    | some o => o.replay rest
    | none => (o, false)

/-- An observer that joins: the history is replayed to it, and it stays live if all of it could be
sent and the channel is open. -/
def joining (history : List Bytes) (closed : Bool) (capacity : Nat) (reading : Bool) : Observer :=
  let (o, whole) := (Observer.mk capacity [] [] reading false).replay history
  { o with live := whole && !closed }

/-- Sends a chunk to a live observer, or cuts it off if that is not possible. -/
def offer (chunk : Bytes) (o : Observer) : Observer :=
  if !o.live then o else (o.send? chunk).getD { o with live := false }

/-- Sends no further chunks. -/
def cutOff (o : Observer) : Observer :=
  { o with live := false }

/-- Receives at most `limit` chunks. -/
def receive (limit : Nat) (o : Observer) : Observer :=
  { o with taken := o.taken ++ o.queue.take limit, queue := o.queue.drop limit }

/-- Whether an observer that has received everything would be told that nothing more will come. -/
def atEnd (o : Observer) : Bool :=
  o.queue.isEmpty && !o.live

end Observer

/-- The log of one build. Observers are numbered in the order in which they joined. -/
structure Channel where
  history : List Bytes
  observers : List Observer
  closed : Bool
deriving DecidableEq

/-- What an observer has received: chunks, and whether the end came after them. -/
structure Received where
  chunks : List Bytes
  ended : Bool
deriving DecidableEq

namespace Channel

/-- A log that nobody has written to. -/
def empty : Channel := ⟨[], [], false⟩

instance : Inhabited Channel := ⟨empty⟩

/-- Records a chunk and sends it to the live observers; refused once the log is closed. -/
def append (ch : Channel) (chunk : Bytes) : Channel × Bool :=
  if ch.closed then (ch, false)
  else
    ({ ch with
        history := ch.history ++ [chunk]
        observers := ch.observers.map (Observer.offer chunk) }, true)

/-- Lets an observer join, and gives its number. -/
def join (ch : Channel) (capacity : Nat) (reading : Bool) : Channel × Nat :=
  ({ ch with observers := ch.observers ++ [.joining ch.history ch.closed capacity reading] },
    ch.observers.length)

/-- Lets an observer join whose queue holds the history and a backlog. -/
def subscribe (ch : Channel) : Channel × Nat :=
  ch.join (ch.history.length + backlog) true

/-- Ends the log and cuts off every observer; refused if that has happened already. -/
def close? (ch : Channel) : Option Channel :=
  if ch.closed then none
  else some { ch with closed := true, observers := ch.observers.map Observer.cutOff }

/-- Lets an observer stop reading. -/
def leave (ch : Channel) (i : Nat) : Channel :=
  { ch with observers := ch.observers.modify i fun o => { o with reading := false } }

/-- Lets an observer receive what is queued for it, at most `limit` chunks. It sees the end only if
it was still waiting for a chunk when there were none left. -/
def receive (ch : Channel) (i : Nat) (limit : Option Nat) : Channel × Received :=
  match ch.observers[i]? with
  | none => (ch, ⟨[], true⟩)
  | some o =>
    let n := limit.getD o.queue.length
    let o' := o.receive n
    let wanted := match limit with
      | some n => decide (o.queue.length < n)
      | none => true
    ({ ch with observers := ch.observers.set i o' }, ⟨o.queue.take n, wanted && o'.atEnd⟩)

/-- How many observers are live. -/
def liveCount (ch : Channel) : Nat :=
  (ch.observers.filter (·.live)).length

end Channel

end BuildBroker.Log
