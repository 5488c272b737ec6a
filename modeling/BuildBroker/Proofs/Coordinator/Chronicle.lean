import BuildBroker.Proofs.Bits.Reading
import BuildBroker.Proofs.Coordinator.Completion
import BuildBroker.Proofs.Coordinator.Delegation

/-!
# The Chronicle of a Build

What happens to the uploads of a build and to their bits, as it happens: in which phase an upload
finds the build, what the executor says to it, when it offers its bits, when it looks whether they
have been fetched, and how they are read.

Main statements:
- `Build.notes`: what is noted at a step.
- `story`, `readings`: what the chronicle says of one upload, and of the bits under one ticket.
- `Coordinator.chronicle_induction`: what is kept by all changes of a build holds in every run.
-/

namespace BuildBroker

/-- Something that is noted of a build. -/
inductive BuildEvent where
  /-- An upload that is about to claim the build finds it in a phase. -/
  | finds (upload : Nat) (p : Phase)
  /-- The executor answers an upload. -/
  | hears (upload : Nat) (verdict : Except ExecutorError SessionEndpoints)
  /-- An upload offers its bits under a ticket, at a time. -/
  | offers (upload ticket now : Nat)
  /-- The upload looks, at a time, what has become of the bits under a ticket. -/
  | looks (ticket now : Nat)
  /-- The fetch that has taken the bits under a ticket reads them. -/
  | reads (ticket : Nat) (x : Reading)

/-- The upload that an event is about. -/
def BuildEvent.upload? : BuildEvent → Option Nat
  | .finds u _ | .hears u _ | .offers u _ _ => some u
  | .looks _ _ | .reads _ _ => none

/-- The reading of the bits under a ticket that an event is. -/
def BuildEvent.reading? (t : Nat) : BuildEvent → Option Reading
  | .reads t' x => if t' = t then some x else none
  | _ => none

/-- What a chronicle says of an upload. -/
def story (u : Nat) (h : List BuildEvent) : List BuildEvent :=
  h.filter (·.upload? = some u)

/-- How the bits under a ticket have been read. -/
def readings (t : Nat) (h : List BuildEvent) : List Reading :=
  h.filterMap (BuildEvent.reading? t)

theorem story_append (u : Nat) (h k : List BuildEvent) :
    story u (h ++ k) = story u h ++ story u k :=
  List.filter_append _ _

theorem readings_append (t : Nat) (h k : List BuildEvent) :
    readings t (h ++ k) = readings t h ++ readings t k :=
  List.filterMap_append

theorem readings_reads (t u : Nat) (x : Reading) :
    readings t [.reads u x] = if u = t then [x] else [] := by
  by_cases hu : u = t <;> simp [readings, BuildEvent.reading?, hu]

theorem mem_story {u : Nat} {e : BuildEvent} (he : e.upload? = some u) (h : List BuildEvent) :
    e ∈ story u h ↔ e ∈ h := by
  simp [story, he]

/-- What is said of an upload is said. -/
theorem mem_of_story {u : Nat} {e : BuildEvent} {h l : List BuildEvent} (hstory : story u h = l)
    (he : e ∈ l) : e ∈ h := by
  rw [← hstory] at he
  exact (List.mem_filter.mp he).1

namespace Build

/-- What is noted of a build at a step. -/
def notes (b : Build) : BuildStep → List BuildEvent
  | .uploadTurn now u =>
    match b.stage? u with
    | some .claiming => [.finds u b.record.phase]
    | some .offering => [.offers u b.bits.deliveries.length now]
    | some (.delivering t) => [.looks t now]
    | _ => []
  | .answer u verdict => [.hears u verdict]
  | .pollBits t => if (b.reader? t).isSome then [.reads t (.polled (b.pollBits t).2)] else []
  | .leaveBits t => if (b.reader? t).isSome then [.reads t .left] else []
  | _ => []

/-- Nothing is noted of a call that is refused. -/
theorem notes_of_mayBeRefused (b : Build) {y : BuildStep} (hy : y.MayBeRefused) :
    b.notes y = [] := by
  cases y <;> first | rfl | exact hy.elim

/-- Nothing is noted of an upload when another one takes a turn. -/
theorem story_notes_of_ne (b : Build) {u v : Nat} (now : Nat) (huv : u ≠ v) :
    story v (b.notes (.uploadTurn now u)) = [] := by
  simp only [notes]
  split <;> simp [story, BuildEvent.upload?, huv]

/-- Nothing is noted of an upload where no upload takes a turn or is answered. -/
theorem story_notes_of_aside (b : Build) {y : BuildStep} (v : Nat)
    (hturn : ∀ now u, y ≠ .uploadTurn now u) (hanswer : ∀ u verdict, y ≠ .answer u verdict) :
    story v (b.notes y) = [] := by
  cases y with
  | uploadTurn now u => exact absurd rfl (hturn now u)
  | answer u verdict => exact absurd rfl (hanswer u verdict)
  | pollBits t | leaveBits t =>
    simp only [notes]
    split <;> rfl
  | upload | dropUpload | fetch | fetchTurn | dropFetch | markDelivery | markFetch | recordResult
  | abort | append | observe | receive | unobserve => rfl

/-- No bits are read but by polling and leaving them. -/
theorem readings_notes_of_aside (b : Build) {y : BuildStep} (t : Nat)
    (hpoll : ∀ t, y ≠ .pollBits t) (hleave : ∀ t, y ≠ .leaveBits t) :
    readings t (b.notes y) = [] := by
  cases y with
  | pollBits t => exact absurd rfl (hpoll t)
  | leaveBits t => exact absurd rfl (hleave t)
  | uploadTurn now u =>
    simp only [notes]
    split <;> rfl
  | upload | answer | dropUpload | fetch | fetchTurn | dropFetch | markDelivery | markFetch
  | recordResult | abort | append | observe | receive | unobserve => rfl

end Build

namespace Coordinator

variable {settings : CoordinatorSettings} {steps : List CoordinatorStep} {c : Coordinator}
variable {id : BuildId} {b : Build}

/-- The chronicle of a build in a run. -/
def chronicle (c : Coordinator) (id : BuildId) (steps : List CoordinatorStep) : List BuildEvent :=
  c.history Build.notes id steps

/-- Induction on the changes of one build, along its chronicle. -/
theorem chronicle_induction {motive : Build → List BuildEvent → Prop}
    (born : ∀ now sub, motive (.fresh (.fresh id now sub)) [])
    (moved : ∀ b h y b', b.id = id → b.Delegated → b.Settled → motive b h →
      b.Moves settings y b' → motive b' (h ++ b.notes y))
    (h : (Coordinator.mk settings .empty).play steps = some c)
    (hb : c.registry.find? id = some b) :
    motive b ((Coordinator.mk settings .empty).chronicle id steps) := by
  refine history_induction (motive := motive) born ?_ h hb
  intro xs mid y mid' b b' log hplay hb hstep hb' hmotive
  -- a step at the build that leaves it as it is was refused, and nothing is noted of it
  rcases moves_between hstep hb hb' with ⟨rfl, hcall⟩ | ⟨y', heq, hm⟩
  · rw [b'.notes_of_mayBeRefused (hcall y rfl), List.append_nil]
    exact hmotive
  · obtain rfl : y = y' := (CoordinatorStep.build.inj heq).2
    rw [(born_of_play hplay hb).1] at hm
    exact moved b log y b' (id_of_find? hb) (delegated_of_play hplay hb)
      (settled_of_play hplay hb) hmotive hm

end Coordinator

end BuildBroker
