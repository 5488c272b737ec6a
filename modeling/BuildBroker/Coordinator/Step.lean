import BuildBroker.Coordinator.Basic
import BuildBroker.Rendezvous.Step

/-!
# Steps of the Coordinator

Everything that can happen to the builds of a coordinator, one step at a time: callers start uploads
and fetches and give them up, each of these takes its turns, the executor answers when it likes, bits
are read and left, results are reported, logs are written and watched. A step that is not possible now
has no result; a call that is refused is possible and changes nothing.

Nothing is said here about the order of steps. The time of a turn is part of the step, and so is the
executor's answer. Every step but a registration is about one build.
-/

namespace BuildBroker

/-- A step that is about one build. -/
inductive BuildStep where
  | upload (p : Payload)
  | uploadTurn (now number : Nat)
  /-- The executor answers an upload that waits for it. -/
  | answer (number : Nat) (verdict : Except ExecutorError SessionEndpoints)
  /-- The caller of a waiting upload gives it up. -/
  | dropUpload (number : Nat)
  | fetch (now : Nat)
  | fetchTurn (now number : Nat)
  /-- The caller of a waiting fetch gives it up. -/
  | dropFetch (number : Nat)
  | pollBits (ticket : Nat)
  | leaveBits (ticket : Nat)
  /-- A delivery or a fetch that waits is woken late, or for nothing. -/
  | markDelivery (ticket : Nat) (woken : Bool)
  | markFetch (number : Nat) (woken : Bool)
  | recordResult (r : BuildResult)
  /-- A request is passed on to the abort address, if there is one. -/
  | abort
  | append (chunk : Bytes)
  | observe (capacity : Nat) (reading : Bool)
  | receive (observer : Nat) (limit : Option Nat)
  | unobserve (observer : Nat)

/-- A step of a coordinator. Names are drawn at random, and none is drawn twice. -/
inductive CoordinatorStep where
  | create (id : BuildId) (now : Time.Instant) (s : Submission)
  | build (id : BuildId) (s : BuildStep)

namespace Build

/-- Whether the executor has been asked on behalf of an upload and has not answered yet. -/
def isAsking (b : Build) (u : Nat) : Bool :=
  match b.uploads[u]? with
  | some ⟨_, .submitting _⟩ => true
  | _ => false

/-- Whether an upload waits, so that its caller can give it up. -/
def uploadWaits (b : Build) (u : Nat) : Bool :=
  match b.uploads[u]? with
  | some ⟨_, .submitting _⟩ => true
  | some ⟨_, .delivering ticket⟩ => b.bits.deliveryWaits ticket
  | _ => false

/-- A step of the calls at the rendezvous that no upload takes part in. -/
def bitsStep? (b : Build) (s : Rendezvous.Step Payload) : Option Build :=
  (b.bits.step? s).map fun bits => { b with bits }

end Build

namespace Coordinator

/-- What a call has left behind: a call that is refused changes nothing. -/
def after {α : Type} (c : Coordinator) : Except CoordinatorError (Coordinator × α) → Coordinator
  | .ok (c', _) => c'
  | .error _ => c

/-- Changes one build, if it is there and the change is possible. -/
def modify? (c : Coordinator) (id : BuildId) (f : Build → Option Build) : Option Coordinator := do
  let b ← c.registry.find? id
  let b ← f b
  return c.modify id fun _ => b

/-- Takes one step at a build, if it is possible. -/
def stepAt? (c : Coordinator) (id : BuildId) : BuildStep → Option Coordinator
  | .upload p => some (c.after (c.startUpload id p))
  | .uploadTurn now u => c.uploadTurn? now id u
  | .answer u verdict =>
    c.modify? id fun b => if b.isAsking u then some (b.answerUpload u verdict) else none
  | .dropUpload u => c.modify? id fun b => if b.uploadWaits u then some (b.dropUpload u) else none
  | .fetch now => some (c.after (c.startFetch id now))
  | .fetchTurn now f => c.fetchTurn? now id f
  | .dropFetch f => c.modify? id (·.bitsStep? (.cancelFetch f))
  | .pollBits ticket => c.modify? id fun b => some (b.pollBits ticket).1
  | .leaveBits ticket => c.modify? id fun b => some (b.leaveBits ticket)
  | .markDelivery ticket woken => c.modify? id (·.bitsStep? (.markDelivery ticket woken))
  | .markFetch f woken => c.modify? id (·.bitsStep? (.markFetch f woken))
  | .recordResult r => some (c.after (c.recordResult id r))
  | .abort => some (c.after ((c.endpoint id .abort).map fun url => (c, url)))
  | .append chunk => c.modify? id fun b => some (b.append chunk).1
  | .observe capacity reading =>
    c.modify? id fun b => some { b with log := (b.log.join capacity reading).1 }
  | .receive i limit => c.modify? id fun b => some { b with log := (b.log.receive i limit).1 }
  | .unobserve i => c.modify? id fun b => some { b with log := b.log.leave i }

/-- Takes one step, if it is possible. -/
def step? (c : Coordinator) : CoordinatorStep → Option Coordinator
  | .create id now s =>
    if (c.registry.find? id).isSome then none else some (c.after (c.create id now s))
  | .build id s => c.stepAt? id s

/-- Takes steps one after the other, if all of them are possible. -/
def play (c : Coordinator) (steps : List CoordinatorStep) : Option Coordinator :=
  steps.foldlM step? c

end Coordinator

end BuildBroker
