import BuildBroker.Rendezvous.Step

/-!
# Custody at a Rendezvous

The calls and steps of a rendezvous once more, with everything that passes from hand to hand. An item
travels as a parcel, which bears the ticket of its delivery and holds the ends of two lines to it: on
one it is said that the parcel was taken, on the other how it was left. A parcel is with its delivery,
in the slot or with a fetch; where it is dropped its lines are cut.

Tickets are drawn from a counter of 64 bits, which starts again when it has run through. Who withdraws
a parcel knows nothing of it but the ticket.
-/

namespace BuildBroker.Rendezvous

/-- A line on which one thing can be said. -/
inductive Line (β : Type) where
  /-- Nothing has been said yet. -/
  | silent
  | said (x : β)
  /-- Nothing has been said, and nothing will be. -/
  | cut
deriving DecidableEq, Repr

namespace Line

variable {β : Type}

/-- Says something on a line that is silent. -/
def say (x : β) : Line β → Line β
  | silent => said x
  | l => l

/-- Cuts a line that is silent. -/
def hangUp : Line β → Line β
  | silent => cut
  | l => l

end Line

/-- An item on its way. -/
structure Parcel (α : Type) where
  /-- The ticket of its delivery. -/
  ticket : UInt64
  item : α
  /-- The number of the delivery at the other end of its lines. -/
  sender : Nat
deriving DecidableEq

/-- A call to deliver, with what it has in hand. -/
structure Sending (α : Type) where
  deadline : Nat
  ticket : UInt64
  stage : DeliverStage
  /-- The parcel, until it is placed. -/
  parcel : Option (Parcel α)
  /-- Whether the parcel is withdrawn from the slot when the call ends. -/
  armed : Bool
  /-- Where it is said that the parcel was taken. -/
  picked : Line Unit
  /-- Where it is said how the parcel was left. -/
  drained : Line Outcome
deriving DecidableEq

/-- A call to fetch, with what it has in hand. -/
structure Taking (α : Type) where
  deadline : Nat
  stage : FetchStage
  /-- The parcel that it has taken. -/
  parcel : Option (Parcel α)
  /-- Whether it is still to be said how the parcel was left. -/
  held : Bool
deriving DecidableEq

/-- The slot, the counter of tickets and all calls that were ever started. -/
@[ext]
structure Custody (α : Type) where
  slot : Option (Parcel α)
  /-- The next ticket. -/
  next : UInt64
  sendings : List (Sending α)
  takings : List (Taking α)
deriving DecidableEq

variable {α : Type}

/-- Marks a delivery that waits for the slot. -/
def Sending.wake (d : Sending α) : Sending α :=
  match d.stage with
  | .parked _ => { d with stage := .parked true }
  | _ => d

/-- Cuts the lines to a delivery. -/
def Sending.hangUp (d : Sending α) : Sending α :=
  { d with picked := d.picked.hangUp, drained := d.drained.hangUp }

/-- What is left of a delivery at its end. -/
def Sending.leave (stage : DeliverStage) (d : Sending α) : Sending α :=
  { d with stage, parcel := none, armed := false }

/-- Says to a delivery that its parcel was taken. -/
def Sending.pick (d : Sending α) : Sending α :=
  { d with picked := d.picked.say () }

/-- Says to a delivery how its parcel was left. -/
def Sending.report (o : Outcome) (d : Sending α) : Sending α :=
  { d with drained := d.drained.say o }

/-- Marks a fetch that waits for an item. -/
def Taking.wake (g : Taking α) : Taking α :=
  match g.stage with
  | .parked _ => { g with stage := .parked true }
  | _ => g

/-- Hands a parcel to a fetch. -/
def Taking.take (p : Parcel α) (g : Taking α) : Taking α :=
  { g with stage := .took p.sender, parcel := some p, held := true }

namespace Custody

/-- An empty slot and no calls. -/
def empty : Custody α := ⟨none, 0, [], []⟩

/-- Marks all deliveries that wait for the slot. -/
def wakeSendings (c : Custody α) : Custody α :=
  { c with sendings := c.sendings.map Sending.wake }

/-- Marks all fetches that wait for an item. -/
def wakeTakings (c : Custody α) : Custody α :=
  { c with takings := c.takings.map Taking.wake }

/-- Changes a delivery. -/
def modifySending (c : Custody α) (n : Nat) (change : Sending α → Sending α) : Custody α :=
  { c with sendings := c.sendings.modify n change }

/-- Changes a fetch. -/
def modifyTaking (c : Custody α) (f : Nat) (change : Taking α → Taking α) : Custody α :=
  { c with takings := c.takings.modify f change }

/-- Starts a delivery, which draws the next ticket. -/
def startDelivery (c : Custody α) (item : α) (deadline : Nat) : Custody α :=
  { c with
    next := c.next + 1
    sendings := c.sendings ++ [{
      deadline, ticket := c.next, stage := .looking
      parcel := some ⟨c.next, item, c.sendings.length⟩
      armed := false, picked := .silent, drained := .silent }] }

/-- Starts a fetch. -/
def startFetch (c : Custody α) (deadline : Nat) : Custody α :=
  { c with takings := c.takings ++ [⟨deadline, .looking, none, false⟩] }

/-- Drops a parcel. -/
def discard (c : Custody α) (p : Parcel α) : Custody α :=
  c.modifySending p.sender Sending.hangUp

/-- Withdraws the parcel in the slot if it bears a ticket; also whether it did. -/
def withdraw (c : Custody α) (ticket : UInt64) : Custody α × Bool :=
  match c.slot with
  | some p =>
    if p.ticket = ticket then ({ c with slot := none }.wakeSendings.discard p, true) else (c, false)
  | none => (c, false)

/-- Ends a delivery, which drops all that it has in hand. -/
def endSending (c : Custody α) (n : Nat) (stage : DeliverStage) : Custody α :=
  match c.sendings[n]? with
  | none => c
  | some d =>
    let c := if d.armed then (c.withdraw d.ticket).1 else c
    let c := match d.parcel with
      | some p => c.discard p
      | none => c
    c.modifySending n (Sending.leave stage)

/-- The next turn of a delivery. -/
def deliveryTurn? (now : Nat) (c : Custody α) (n : Nat) : Option (Custody α) :=
  match c.sendings[n]? with
  | none => none
  | some d =>
    match d.stage with
    | .looking =>
      let (slot, parcel) := match c.slot with
        | none => (d.parcel, none)
        | some p => (some p, d.parcel)
      let c := { c with slot }
      -- the parcel has left its hand if the slot was empty
      match parcel with
      | none => some (c.modifySending n fun d =>
          { d with stage := .offered, parcel, armed := true }).wakeTakings
      | some _ => some (c.modifySending n fun d => { d with stage := .parked false, parcel })
    | .parked true => some (c.modifySending n fun d => { d with stage := .looking })
    | .parked false =>
      if d.deadline ≤ now then some (c.endSending n (.returned .notFetched)) else none
    | .offered =>
      match d.picked with
      | .said () => some (c.modifySending n fun d => { d with stage := .draining, armed := false })
      | .cut => some (c.endSending n (.returned .notFetched))
      | .silent =>
        if d.deadline ≤ now then
          some (c.modifySending n fun d => { d with stage := .expired, armed := false })
        else none
    | .expired =>
      let (c, withdrawn) := c.withdraw d.ticket
      if withdrawn then some (c.endSending n (.returned .notFetched))
      else some (c.modifySending n fun d => { d with stage := .draining })
    | .draining =>
      match d.drained with
      | .said o => some (c.endSending n (.returned (.drained o)))
      | .cut => some (c.endSending n (.returned (.drained .interrupted)))
      | .silent => none
    | .returned _ | .cancelled => none

/-- The next turn of a fetch. -/
def fetchTurn? (now : Nat) (c : Custody α) (f : Nat) : Option (Custody α) :=
  match c.takings[f]? with
  | none => none
  | some g =>
    match g.stage with
    | .looking =>
      match c.slot with
      | some p =>
        let c := { c with slot := none }.wakeSendings
        let c := c.modifySending p.sender Sending.pick
        some (c.modifyTaking f (Taking.take p))
      | none => some (c.modifyTaking f fun g => { g with stage := .parked false })
    | .parked true => some (c.modifyTaking f fun g => { g with stage := .looking })
    | .parked false =>
      if g.deadline ≤ now then some (c.modifyTaking f fun g => { g with stage := .timedOut })
      else none
    | .took _ | .timedOut | .cancelled => none

/-- Gives up a delivery that waits. -/
def cancelDelivery? (c : Custody α) (n : Nat) : Option (Custody α) :=
  match (c.sendings[n]?).map Sending.stage with
  | some (.parked _) | some .offered | some .draining => some (c.endSending n .cancelled)
  | _ => none

/-- Changes the stage of a fetch that waits. -/
def moveParked? (c : Custody α) (f : Nat) (stage : FetchStage) : Option (Custody α) :=
  match (c.takings[f]?).map Taking.stage with
  | some (.parked _) => some (c.modifyTaking f fun g => { g with stage })
  | _ => none

/-- Says how a fetch leaves the parcel that it holds. -/
def finish? (c : Custody α) (f : Nat) (o : Outcome) : Option (Custody α) :=
  match c.takings[f]? with
  | some ⟨_, _, some p, true⟩ =>
    some ((c.modifySending p.sender (Sending.report o)).modifyTaking f fun g =>
      { g with held := false })
  | _ => none

/-- Takes one step, if it is possible. -/
def step? (c : Custody α) : Step α → Option (Custody α)
  | .deliver item deadline => some (c.startDelivery item deadline)
  | .fetch deadline => some (c.startFetch deadline)
  | .deliveryTurn now n => c.deliveryTurn? now n
  | .fetchTurn now f => c.fetchTurn? now f
  | .cancelDelivery n => c.cancelDelivery? n
  | .cancelFetch f => c.moveParked? f .cancelled
  | .finish f o => c.finish? f o
  | .markDelivery n woken =>
    match (c.sendings[n]?).map Sending.stage with
    | some (.parked _) => some (c.modifySending n fun d => { d with stage := .parked woken })
    | _ => none
  | .markFetch f woken => c.moveParked? f (.parked woken)

/-- Takes steps one after the other, if all of them are possible. -/
def play (c : Custody α) (steps : List (Step α)) : Option (Custody α) :=
  steps.foldlM step? c

end Custody

end BuildBroker.Rendezvous
