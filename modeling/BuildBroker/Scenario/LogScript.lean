import BuildBroker.Log.Attach

/-!
# Scripts for a Log

A script acts out a story on one log: named observers join, receive and leave while chunks are
appended. After every step all calls that can return have returned, and the answer shows the state
of the log and who is still waiting.
-/

namespace BuildBroker.Scenario.LogScript

open Log

/-- One step of a script. -/
inductive Step where
  | append (chunk : Bytes)
  /-- Appends the numbers below `n`, as texts. -/
  | appendMany (n : Nat)
  | subscribe (name : String)
  | attach (name : String) (capacity : Nat)
  | cancel (name : String)
  | drop (name : String)
  | receive (name : String) (limit : Option Nat)
  | close

/-- What a step answers. -/
inductive Reply where
  | nothing
  | accepted (b : Bool)
  | acceptedCount (n : Nat)
  | received (r : Received)
  | closed
  | alreadyClosed

/-- The words for closing a log that is closed. -/
def alreadyClosedMessage : String := "log channel already closed"

/-- The log with the names of its observers and calls. -/
structure State where
  desk : Desk
  observers : List (String × Nat)
  calls : List (String × Nat)

namespace State

/-- A fresh log without observers. -/
def start : State := ⟨.empty, [], []⟩

/-- The number behind a name. -/
def number? (names : List (String × Nat)) (name : String) : Option Nat :=
  (names.find? (·.1 = name)).map (·.2)

/-- The names with one of them given a new number. -/
def rename (names : List (String × Nat)) (name : String) (i : Nat) : List (String × Nat) :=
  (name, i) :: names.filter (·.1 ≠ name)

/-- Lets the observer of a name stop reading, if there is one. -/
def dropObserver (s : State) (name : String) : State :=
  match number? s.observers name with
  | some i =>
    { s with
      desk := s.desk.advance (.leave i)
      observers := s.observers.filter (·.1 ≠ name) }
  | none => s

/-- The names of the calls that have not returned, in order. -/
def waiting (s : State) : List String :=
  ((s.calls.filter fun c => s.desk.isPending c.2).map (·.1)).mergeSort (fun a b => a ≤ b)

/-- Takes one step. -/
def step (s : State) : Step → State × Reply
  | .append chunk =>
    ({ s with desk := s.desk.advance (.append chunk) },
      .accepted (s.desk.channel.append chunk).2)
  | .appendMany n =>
    let (desk, count) := (List.range n).foldl (fun (d, count) i =>
      let chunk := Bytes.ofText (toString i)
      (d.advance (.append chunk), if (d.channel.append chunk).2 then count + 1 else count))
      (s.desk, 0)
    ({ s with desk }, .acceptedCount count)
  | .subscribe name =>
    let s := s.dropObserver name
    let i := s.desk.channel.observers.length
    ({ s with
      desk := s.desk.advance .subscribe
      observers := rename s.observers name i }, .nothing)
  | .attach name capacity =>
    let s := s.dropObserver name
    let call := s.desk.calls.length
    let i := s.desk.channel.observers.length
    let desk := ((s.desk.advance (.attach capacity)).advance (.register call)).settle
    ({ desk
       observers := rename s.observers name i
       calls := rename s.calls name call }, .nothing)
  | .cancel name =>
    match number? s.calls name with
    | some i => ({ s with desk := s.desk.advance (.cancel i) }, .nothing)
    | none => (s, .nothing)
  | .drop name => (s.dropObserver name, .nothing)
  | .receive name limit =>
    match number? s.observers name with
    | some i =>
      let r := (s.desk.channel.receive i limit).2
      ({ s with desk := s.desk.advance (.receive i limit) }, .received r)
    | none => (s, .received ⟨[], true⟩)
  | .close =>
    match s.desk.step? .close with
    | some desk => ({ s with desk := (desk.advance .announce).settle }, .closed)
    | none => (s, .alreadyClosed)

end State

/-- A step's answer with the state of the log after it. -/
structure Answer where
  reply : Reply
  closed : Bool
  length : Nat
  observers : Nat
  waiting : List String

/-- Plays a script. -/
def run (s : State) : List Step → List Answer
  | [] => []
  | step :: rest =>
    let (s, reply) := s.step step
    let ch := s.desk.channel
    ⟨reply, ch.closed, ch.history.length, ch.liveCount, s.waiting⟩ :: run s rest

end BuildBroker.Scenario.LogScript
