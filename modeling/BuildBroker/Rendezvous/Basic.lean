/-!
# Rendezvous

A place where a producer hands one item to one consumer. Any number of calls to deliver and to fetch
may be under way; there is one slot. A delivery waits for the slot, places its item, waits for a
fetch to take it, and then for that fetch to be done with it. One deadline covers the wait for the
slot and the wait for a fetch.

A call moves in turns, each of which looks at the slot at most once. `turn?` is the next turn of a
call at a time; it has no result while the call has to wait, or once the call is over. Who waits is
woken by a mark: placing an item marks the waiting fetches, clearing the slot marks the waiting
deliveries.
-/

namespace BuildBroker.Rendezvous

/-- How the fetch that took an item left it. -/
inductive Outcome where
  /-- It was read to its end. -/
  | completed
  /-- It was given up before. -/
  | interrupted
deriving DecidableEq, Repr

/-- What a delivery that is over has come to. -/
inductive DeliverResult where
  /-- A fetch took the item and is done with it. -/
  | drained (o : Outcome)
  /-- No fetch took the item before the deadline. -/
  | notFetched
deriving DecidableEq, Repr

/-- How far a delivery has come. -/
inductive DeliverStage where
  /-- It is about to look at the slot. -/
  | looking
  /-- It has found the slot occupied; whether the slot has been cleared since. -/
  | parked (woken : Bool)
  /-- Its item is in the slot, or has just been taken from it. -/
  | offered
  /-- Its deadline has passed; it is about to withdraw its item. -/
  | expired
  /-- Its item has been taken; it waits for the fetch to be done. -/
  | draining
  | returned (r : DeliverResult)
  /-- It was given up by its caller. -/
  | cancelled
deriving DecidableEq, Repr

/-- What has become of an item that is delivered. -/
inductive Pickup where
  /-- No fetch has taken it. -/
  | awaited
  | taken
  /-- It has been withdrawn from the slot. -/
  | lost
deriving DecidableEq, Repr

/-- A call to deliver an item. Its ticket is its position among the deliveries. -/
structure Delivery (α : Type) where
  item : α
  deadline : Nat
  stage : DeliverStage
  pickup : Pickup
  /-- What the fetch has reported. -/
  outcome : Option Outcome
deriving DecidableEq

/-- How far a fetch has come. -/
inductive FetchStage where
  /-- It is about to look at the slot. -/
  | looking
  /-- It has found the slot empty; whether an item has been placed since. -/
  | parked (woken : Bool)
  /-- It has taken the item of a delivery. -/
  | took (ticket : Nat)
  | timedOut
  /-- It was given up by its caller. -/
  | cancelled
deriving DecidableEq, Repr

/-- A call to fetch an item. -/
structure Fetch where
  deadline : Nat
  stage : FetchStage
deriving DecidableEq

end Rendezvous

/-- The slot with all calls that were ever started. -/
structure Rendezvous (α : Type) where
  /-- The ticket of the delivery whose item is in the slot. -/
  slot : Option Nat
  deliveries : List (Rendezvous.Delivery α)
  fetches : List Rendezvous.Fetch
deriving DecidableEq

namespace Rendezvous

variable {α : Type}

/-- An empty slot and no calls. -/
def empty : Rendezvous α := ⟨none, [], []⟩

instance : Inhabited (Rendezvous α) := ⟨empty⟩

/-- Whether an item is in the slot. -/
def isOccupied (r : Rendezvous α) : Bool :=
  r.slot.isSome

/-! ## Waking -/

/-- Marks a delivery that waits for the slot. -/
def Delivery.wake (d : Delivery α) : Delivery α :=
  match d.stage with
  | .parked _ => { d with stage := .parked true }
  | _ => d

/-- Marks a fetch that waits for an item. -/
def Fetch.wake (f : Fetch) : Fetch :=
  match f.stage with
  | .parked _ => { f with stage := .parked true }
  | _ => f

/-- Marks all deliveries that wait for the slot. -/
def wakeDeliveries (r : Rendezvous α) : Rendezvous α :=
  { r with deliveries := r.deliveries.map Delivery.wake }

/-- Marks all fetches that wait for an item. -/
def wakeFetches (r : Rendezvous α) : Rendezvous α :=
  { r with fetches := r.fetches.map Fetch.wake }

/-! ## Calls -/

/-- Starts a delivery. -/
def startDelivery (r : Rendezvous α) (item : α) (deadline : Nat) : Rendezvous α :=
  { r with deliveries := r.deliveries ++ [⟨item, deadline, .looking, .awaited, none⟩] }

/-- Starts a fetch. -/
def startFetch (r : Rendezvous α) (deadline : Nat) : Rendezvous α :=
  { r with fetches := r.fetches ++ [⟨deadline, .looking⟩] }

/-- Moves a delivery on. -/
def setDelivery (r : Rendezvous α) (t : Nat) (s : DeliverStage) : Rendezvous α :=
  { r with deliveries := r.deliveries.modify t fun d => { d with stage := s } }

/-- Notes what has become of the item of a delivery. -/
def setPickup (r : Rendezvous α) (t : Nat) (p : Pickup) : Rendezvous α :=
  { r with deliveries := r.deliveries.modify t fun d => { d with pickup := p } }

/-- Moves a fetch on. -/
def setFetch (r : Rendezvous α) (f : Nat) (s : FetchStage) : Rendezvous α :=
  { r with fetches := r.fetches.modify f fun g => { g with stage := s } }

/-- How far a delivery has come. -/
def deliveryStage? (r : Rendezvous α) (t : Nat) : Option DeliverStage :=
  (r.deliveries[t]?).map Delivery.stage

/-- How far a fetch has come. -/
def fetchStage? (r : Rendezvous α) (f : Nat) : Option FetchStage :=
  (r.fetches[f]?).map Fetch.stage

/-- Clears the slot and wakes who waits for that. -/
def clear (r : Rendezvous α) : Rendezvous α :=
  { r with slot := none }.wakeDeliveries

/-- Takes the item of a delivery out of the slot if it is there. -/
def withdraw (r : Rendezvous α) (t : Nat) : Rendezvous α :=
  if r.slot = some t then (r.setPickup t .lost).clear else r

/-- The next turn of a delivery. -/
def deliveryTurn? (now : Nat) (r : Rendezvous α) (t : Nat) : Option (Rendezvous α) :=
  match r.deliveries[t]? with
  | none => none
  | some d =>
    match d.stage with
    | .looking =>
      if r.slot = none then some ({ r.setDelivery t .offered with slot := some t }).wakeFetches
      else some (r.setDelivery t (.parked false))
    | .parked true => some (r.setDelivery t .looking)
    | .parked false =>
      if d.deadline ≤ now then some (r.setDelivery t (.returned .notFetched)) else none
    | .offered =>
      match d.pickup with
      | .taken => some (r.setDelivery t .draining)
      | .lost => some (r.setDelivery t (.returned .notFetched))
      | .awaited => if d.deadline ≤ now then some (r.setDelivery t .expired) else none
    | .expired =>
      if r.slot = some t then some ((r.withdraw t).setDelivery t (.returned .notFetched))
      else some (r.setDelivery t .draining)
    | .draining =>
      match d.outcome, d.pickup with
      | some o, _ => some (r.setDelivery t (.returned (.drained o)))
      | none, .lost => some (r.setDelivery t (.returned (.drained .interrupted)))
      | none, _ => none
    | .returned _ | .cancelled => none

/-- The next turn of a fetch. -/
def fetchTurn? (now : Nat) (r : Rendezvous α) (f : Nat) : Option (Rendezvous α) :=
  match r.fetches[f]? with
  | none => none
  | some g =>
    match g.stage with
    | .looking =>
      match r.slot with
      | some t => some (((r.setPickup t .taken).clear).setFetch f (.took t))
      | none => some (r.setFetch f (.parked false))
    | .parked true => some (r.setFetch f .looking)
    | .parked false => if g.deadline ≤ now then some (r.setFetch f .timedOut) else none
    | .took _ | .timedOut | .cancelled => none

/-- Whether a delivery waits, so that its caller can give it up. -/
def deliveryWaits (r : Rendezvous α) (t : Nat) : Bool :=
  match r.deliveryStage? t with
  | some (.parked _) | some .offered | some .draining => true
  | _ => false

/-- Gives up a delivery that waits: an item that is still in the slot is withdrawn. -/
def cancelDelivery (r : Rendezvous α) (t : Nat) : Rendezvous α :=
  match r.deliveryStage? t with
  | some (.parked _) | some .draining => r.setDelivery t .cancelled
  | some .offered => (r.withdraw t).setDelivery t .cancelled
  | _ => r

/-- Whether a fetch waits, so that its caller can give it up. -/
def fetchWaits (r : Rendezvous α) (f : Nat) : Bool :=
  match r.fetchStage? f with
  | some (.parked _) => true
  | _ => false

/-- Gives up a fetch that waits. -/
def cancelFetch (r : Rendezvous α) (f : Nat) : Rendezvous α :=
  match r.fetchStage? f with
  | some (.parked _) => r.setFetch f .cancelled
  | _ => r

/-- Reports how a fetch left the item it took; only the first report counts. -/
def report (r : Rendezvous α) (t : Nat) (o : Outcome) : Rendezvous α :=
  { r with
    deliveries := r.deliveries.modify t fun d =>
      if d.pickup = .taken ∧ d.outcome = none then { d with outcome := some o } else d }

/-! ## Deadlines -/

/-- The deadline that a delivery waits for. -/
def Delivery.pendingDeadline? (d : Delivery α) : Option Nat :=
  match d.stage with
  | .parked _ | .offered => some d.deadline
  | _ => none

/-- The deadline that a fetch waits for. -/
def Fetch.pendingDeadline? (f : Fetch) : Option Nat :=
  match f.stage with
  | .parked _ => some f.deadline
  | _ => none

/-- The deadlines that calls wait for. -/
def deadlines (r : Rendezvous α) : List Nat :=
  r.deliveries.filterMap Delivery.pendingDeadline? ++ r.fetches.filterMap Fetch.pendingDeadline?

/-- What a delivery has come to, once it is over. -/
def result? (r : Rendezvous α) (t : Nat) : Option DeliverResult :=
  match r.deliveryStage? t with
  | some (.returned res) => some res
  | _ => none

/-- The item of a delivery. -/
def item? (r : Rendezvous α) (t : Nat) : Option α :=
  (r.deliveries[t]?).map (·.item)

/-- The words that show a rendezvous. -/
def describe (r : Rendezvous α) : String :=
  "Rendezvous \x7b occupied: " ++ (if r.isOccupied then "true" else "false") ++ " \x7d"

end Rendezvous

end BuildBroker
