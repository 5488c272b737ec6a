import BuildBroker.Log.Channel

/-!
# Waiting for the End of a Log

A call that attaches an observer waits until the log closes. It looks at an announcement first, then
lets the observer join, and then waits for the announcement. Closing sets the channel's own mark
first and makes the announcement afterwards, so calls can be at any place in between.

`Desk.step?` takes one such step; a step that is not possible now has no result.
-/

namespace BuildBroker.Log

/-- How far a call that attaches an observer has come. -/
inductive AttachStage where
  /-- It watches the announcement and has not joined yet. -/
  | watching
  /-- Its observer has joined and is live; it waits for the announcement. -/
  | waiting (observer : Nat)
  /-- It has returned; its observer, if it got so far. -/
  | returned (observer : Nat)
  /-- It was given up by its caller. -/
  | cancelled
deriving DecidableEq

/-- A call that attaches an observer. -/
structure AttachCall where
  capacity : Nat
  /-- Whether its observer reads when it joins. -/
  reading : Bool
  stage : AttachStage
deriving DecidableEq

/-- A channel with the calls that wait for its end. -/
structure Desk where
  channel : Channel
  /-- Whether the end has been announced. -/
  announced : Bool
  /-- How many closings have set the mark and not announced it yet. -/
  closing : Nat
  calls : List AttachCall
deriving DecidableEq

/-- One step of a call, or of someone at the channel. -/
inductive DeskStep where
  | append (chunk : Bytes)
  | subscribe
  /-- A call begins to watch. -/
  | attach (capacity : Nat)
  /-- The observer of a call that watches stops reading before it has joined. -/
  | forsake (call : Nat)
  /-- The observer of a call joins. -/
  | register (call : Nat)
  /-- A waiting call sees the announcement. -/
  | resume (call : Nat)
  /-- A call is given up. -/
  | cancel (call : Nat)
  /-- The mark is set and the observers are cut off. -/
  | close
  /-- The end is announced. -/
  | announce
  | receive (observer : Nat) (limit : Option Nat)
  | leave (observer : Nat)

namespace Desk

/-- A fresh log that nobody waits for. -/
def empty : Desk := ⟨.empty, false, 0, []⟩

instance : Inhabited Desk := ⟨empty⟩

/-- Moves a call on. -/
def setStage (d : Desk) (i : Nat) (s : AttachStage) : Desk :=
  { d with calls := d.calls.modify i fun c => { c with stage := s } }

/-- Lets the observer of a call join: the call returns at once unless the observer stays live. -/
def register (d : Desk) (i capacity : Nat) (reading : Bool) : Desk :=
  let (channel, observer) := d.channel.join capacity reading
  let kept := (channel.observers[observer]?.map (·.live)).getD false
  ({ d with channel }).setStage i (if kept then .waiting observer else .returned observer)

/-- Takes one step, if it is possible. -/
def step? (d : Desk) : DeskStep → Option Desk
  | .append chunk => some { d with channel := (d.channel.append chunk).1 }
  | .subscribe => some { d with channel := d.channel.subscribe.1 }
  | .attach capacity => some { d with calls := d.calls ++ [⟨capacity, true, .watching⟩] }
  | .forsake i =>
    match d.calls[i]? with
    | some ⟨_, _, .watching⟩ =>
      some { d with calls := d.calls.modify i fun c => { c with reading := false } }
    | _ => none
  | .register i =>
    match d.calls[i]? with
    | some ⟨capacity, reading, .watching⟩ => some (d.register i capacity reading)
    | _ => none
  | .resume i =>
    match d.calls[i]? with
    | some ⟨_, _, .waiting observer⟩ =>
      if d.announced then some (d.setStage i (.returned observer)) else none
    | _ => none
  | .cancel i =>
    match d.calls[i]? with
    | some ⟨_, _, .watching⟩ | some ⟨_, _, .waiting _⟩ => some (d.setStage i .cancelled)
    | _ => none
  | .close => d.channel.close?.map fun channel => { d with channel, closing := d.closing + 1 }
  | .announce =>
    if d.closing = 0 then none else some { d with closing := d.closing - 1, announced := true }
  | .receive i limit => some { d with channel := (d.channel.receive i limit).1 }
  | .leave i => some { d with channel := d.channel.leave i }

/-- Takes a step, or stays where it is not possible. -/
def advance (d : Desk) (s : DeskStep) : Desk :=
  (d.step? s).getD d

/-- Whether a call has neither returned nor been given up. -/
def isPending (d : Desk) (call : Nat) : Bool :=
  match d.calls[call]? with
  | some ⟨_, _, .watching⟩ | some ⟨_, _, .waiting _⟩ => true
  | _ => false

/-- The observer of a call, once it has joined. -/
def observerOf? (d : Desk) (call : Nat) : Option Nat :=
  match d.calls[call]? with
  | some ⟨_, _, .waiting o⟩ | some ⟨_, _, .returned o⟩ => some o
  | _ => none

/-- Lets every call that can return do so. -/
def settle (d : Desk) : Desk :=
  (List.range d.calls.length).foldl (fun d i => d.advance (.resume i)) d

end Desk

end BuildBroker.Log
