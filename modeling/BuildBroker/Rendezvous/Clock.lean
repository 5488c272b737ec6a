import BuildBroker.Rendezvous.Step

/-!
# A Rendezvous in Time

Calls at a rendezvous under one clock. Who starts a call says how long he is willing to wait; turns
are taken at the time that the clock shows; a call that waits is woken when the slot changes, and at
no other time. Time may pass at any moment, and at rest nobody can take a turn before it does.
-/

namespace BuildBroker.Rendezvous

variable {α : Type}

/-- A rendezvous, and the time. -/
structure Clocked (α : Type) where
  now : Nat
  rendezvous : Rendezvous α
deriving DecidableEq

/-- A step under a clock. -/
inductive ClockStep (α : Type) where
  | deliver (item : α) (timeout : Nat)
  | fetch (timeout : Nat)
  | deliveryTurn (ticket : Nat)
  | fetchTurn (number : Nat)
  /-- The caller of a waiting delivery gives it up. -/
  | cancelDelivery (ticket : Nat)
  /-- The caller of a waiting fetch gives it up. -/
  | cancelFetch (number : Nat)
  /-- Whoever holds what a fetch has taken is done with it. -/
  | finish (number : Nat) (o : Outcome)
  /-- Time passes. -/
  | wait (ms : Nat)
deriving DecidableEq, Repr

/-- Whether a step is a turn of a call. -/
def ClockStep.isTurn : ClockStep α → Bool
  | .deliveryTurn _ | .fetchTurn _ => true
  | _ => false

namespace Clocked

/-- An empty slot and no calls, at time zero. -/
def start : Clocked α := ⟨0, .empty⟩

/-- Takes a step at the rendezvous, if it is possible. -/
def takes? (c : Clocked α) (s : Step α) : Option (Clocked α) :=
  (c.rendezvous.step? s).map fun rendezvous => { c with rendezvous }

/-- Takes a step, if it is possible. -/
def step? (c : Clocked α) : ClockStep α → Option (Clocked α)
  | .deliver item timeout => c.takes? (.deliver item (c.now + timeout))
  | .fetch timeout => c.takes? (.fetch (c.now + timeout))
  | .deliveryTurn t => c.takes? (.deliveryTurn c.now t)
  | .fetchTurn f => c.takes? (.fetchTurn c.now f)
  | .cancelDelivery t => c.takes? (.cancelDelivery t)
  | .cancelFetch f => c.takes? (.cancelFetch f)
  | .finish f o => c.takes? (.finish f o)
  | .wait ms => some { c with now := c.now + ms }

/-- Takes steps one after the other, if all of them are possible. -/
def play (c : Clocked α) (steps : List (ClockStep α)) : Option (Clocked α) :=
  steps.foldlM step? c

/-- Nobody can take a turn now. -/
def AtRest (c : Clocked α) : Prop :=
  (∀ t, c.rendezvous.deliveryTurn? c.now t = none) ∧ ∀ f, c.rendezvous.fetchTurn? c.now f = none

end Clocked

end BuildBroker.Rendezvous
