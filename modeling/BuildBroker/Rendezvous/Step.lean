import BuildBroker.Rendezvous.Basic

/-!
# Steps at a Rendezvous

Everything that can happen at a rendezvous, one step at a time: calls start, take turns and are given
up, and whoever holds what a fetch has taken is done with it. Each step looks at the slot at most
once, and a step that is not possible now has no result.

Nothing is said here about the order of steps. The time of a turn is part of the step, and the marks
of waiting calls can be set and cleared at will: a call may be woken late, twice, or for nothing.
-/

namespace BuildBroker.Rendezvous

/-- A step of a call, or of someone who holds what a fetch has taken. -/
inductive Step (α : Type) where
  | deliver (item : α) (deadline : Nat)
  | fetch (deadline : Nat)
  | deliveryTurn (now ticket : Nat)
  | fetchTurn (now number : Nat)
  /-- The caller of a waiting delivery gives it up. -/
  | cancelDelivery (ticket : Nat)
  /-- The caller of a waiting fetch gives it up. -/
  | cancelFetch (number : Nat)
  /-- Whoever holds what a fetch has taken is done with it. -/
  | finish (number : Nat) (o : Outcome)
  | markDelivery (ticket : Nat) (woken : Bool)
  | markFetch (number : Nat) (woken : Bool)
deriving DecidableEq, Repr

/-- The fetch that a step belongs to, if it belongs to one that has started. -/
def Step.fetch? {α : Type} : Step α → Option Nat
  | .fetchTurn _ f | .cancelFetch f | .finish f _ | .markFetch f _ => some f
  | _ => none

variable {α : Type}

/-- Whether the item of a delivery has been taken and is still held. -/
def isHeld (r : Rendezvous α) (t : Nat) : Bool :=
  match r.deliveries[t]? with
  | some d => d.pickup = .taken && d.outcome.isNone
  | none => false

/-- Takes one step, if it is possible. -/
def step? (r : Rendezvous α) : Step α → Option (Rendezvous α)
  | .deliver item deadline => some (r.startDelivery item deadline)
  | .fetch deadline => some (r.startFetch deadline)
  | .deliveryTurn now t => r.deliveryTurn? now t
  | .fetchTurn now f => r.fetchTurn? now f
  | .cancelDelivery t => if r.deliveryWaits t then some (r.cancelDelivery t) else none
  | .cancelFetch f => if r.fetchWaits f then some (r.cancelFetch f) else none
  | .finish f o =>
    match r.fetchStage? f with
    | some (.took t) => if r.isHeld t then some (r.report t o) else none
    | _ => none
  | .markDelivery t woken =>
    match r.deliveryStage? t with
    | some (.parked _) => some (r.setDelivery t (.parked woken))
    | _ => none
  | .markFetch f woken =>
    match r.fetchStage? f with
    | some (.parked _) => some (r.setFetch f (.parked woken))
    | _ => none

/-- Takes steps one after the other, if all of them are possible. -/
def play (r : Rendezvous α) (steps : List (Step α)) : Option (Rendezvous α) :=
  steps.foldlM step? r

end BuildBroker.Rendezvous
