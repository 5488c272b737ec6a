import BuildBroker.Rendezvous.Basic
import BuildBroker.Scenario.Schedule

/-!
# Scripts for a Rendezvous

A script acts out a story on one slot in virtual time: named calls deliver and fetch texts, are
given up, and report how they left what they took. After every step all calls have run until they
wait.
-/

namespace BuildBroker.Scenario.RendezvousScript

open Rendezvous

/-- One step of a script. -/
inductive Step where
  | deliver (name item : String) (timeout : Nat)
  | fetch (name : String) (timeout : Nat)
  | complete (name : String)
  | drop (name : String)
  | cancel (name : String)
  | advance (ms : Nat)
  | describe

/-- A call of a script. -/
inductive CallRef where
  | delivery (ticket : Nat)
  | fetch (number : Nat)
deriving DecidableEq

/-- A named call, and whether its end has been told. -/
structure Call where
  name : String
  ref : CallRef
  told : Bool

/-- What a call has come to. -/
inductive Result where
  | drained (o : Outcome)
  | notFetched
  | item (text : String)
  | timedOut
  | cancelled

/-- The words for a delivery that nobody fetched. -/
def notFetchedMessage : String := "delivery was not fetched in time"

/-- The words for a fetch that got nothing. -/
def timedOutMessage : String := "timed out waiting for a delivery"

/-- The slot, the clock, the calls in the order of their start, and what is held. -/
structure State where
  now : Nat
  slot : Rendezvous String
  calls : List Call
  /-- The tickets of items that were taken, by the names of their fetches. -/
  held : List (String × Nat)

namespace State

/-- An empty slot at time zero. -/
def start : State := ⟨0, .empty, [], []⟩

/-- The next turn of a call. -/
def turn? (c : Call) (s : State) : Option State :=
  let slot := match c.ref with
    | .delivery t => s.slot.deliveryTurn? s.now t
    | .fetch f => s.slot.fetchTurn? s.now f
  slot.map fun slot => { s with slot }

/-- Lets all calls run until they wait. -/
def settle (s : State) : State :=
  let fuel := fuelFor s.calls.length
  Scenario.settle turn? s.calls fuel fuel s

/-- Sets the clock and lets all calls run. -/
def atTime (now : Nat) (s : State) : State :=
  { s with now }.settle

/-- What a call has come to, once it is over. -/
def result? (s : State) (c : Call) : Option Result :=
  match c.ref with
  | .delivery t =>
    match s.slot.deliveryStage? t with
    | some (.returned (.drained o)) => some (.drained o)
    | some (.returned .notFetched) => some .notFetched
    | some .cancelled => some .cancelled
    | _ => none
  | .fetch f =>
    match s.slot.fetchStage? f with
    | some (.took t) => some (.item ((s.slot.item? t).getD ""))
    | some .timedOut => some .timedOut
    | some .cancelled => some .cancelled
    | _ => none

/-- Keeps what fetches have taken since under their names; what a name held before is given up. -/
def keep (s : State) : State :=
  s.calls.foldl (fun s c =>
    if c.told then s
    else match c.ref with
      | .delivery _ => s
      | .fetch f =>
        match s.slot.fetchStage? f with
        | some (.took t) =>
          let slot := match s.held.find? (·.1 = c.name) with
            | some (_, old) => if old = t then s.slot else s.slot.report old .interrupted
            | none => s.slot
          { s with slot, held := (c.name, t) :: s.held.filter (·.1 ≠ c.name) }
        | _ => s) s

/-- Reports how the item held under a name was left; `none` if nothing is held. -/
def report? (s : State) (name : String) (o : Outcome) : Option State :=
  (s.held.find? (·.1 = name)).map fun (_, t) =>
    { s with slot := s.slot.report t o, held := s.held.filter (·.1 ≠ name) }

/-- The latest call of a name that is still under way. -/
def running? (s : State) (name : String) : Option Call :=
  s.calls.reverse.find? fun c => c.name = name && (s.result? c).isNone

/-- What is noted when a name holds nothing. -/
def nothingHeld : String := "nothing held"

/-- What is noted when a call is not under way. -/
def notRunning : String := "not running"

/-- Takes one step; a note says what could not be done. -/
def step (s : State) : Step → State × Option String
  | .deliver name item timeout =>
    let ref := CallRef.delivery s.slot.deliveries.length
    let s := { s with
      slot := s.slot.startDelivery item (s.now + timeout)
      calls := s.calls ++ [Call.mk name ref false] }
    (s.settle, none)
  | .fetch name timeout =>
    let ref := CallRef.fetch s.slot.fetches.length
    let s := { s with
      slot := s.slot.startFetch (s.now + timeout)
      calls := s.calls ++ [Call.mk name ref false] }
    (s.settle, none)
  | .complete name =>
    match s.report? name .completed with
    | some s => (s.settle, none)
    | none => (s, some nothingHeld)
  | .drop name =>
    match s.report? name .interrupted with
    | some s => (s.settle, none)
    | none => (s, some nothingHeld)
  | .cancel name =>
    match s.running? name with
    | none => (s, some notRunning)
    | some c =>
      let slot := match c.ref with
        | .delivery t => s.slot.cancelDelivery t
        | .fetch f => s.slot.cancelFetch f
      ({ s with slot }.settle, none)
  | .advance ms =>
    (Scenario.advance (·.slot.deadlines) atTime (s.now + ms) (s.calls.length + 1) s, none)
  | .describe => (s, some s.slot.describe)

end State

/-- A step's answer: which calls ended in it and which are still under way, in the order of their
start. -/
structure Answer where
  occupied : Bool
  done : List (String × Result)
  pending : List String
  note : Option String

/-- Plays a script. -/
def run (s : State) : List Step → List Answer
  | [] => []
  | step :: rest =>
    let (s, note) := s.step step
    let s := s.keep
    let done := s.calls.filterMap fun c =>
      if c.told then none else (s.result? c).map fun r => (c.name, r)
    let pending := (s.calls.filter fun c => (s.result? c).isNone).map (·.name)
    let s := { s with calls := s.calls.map fun c => { c with told := (s.result? c).isSome } }
    ⟨s.slot.isOccupied, done, pending, note⟩ :: run s rest

end BuildBroker.Scenario.RendezvousScript
