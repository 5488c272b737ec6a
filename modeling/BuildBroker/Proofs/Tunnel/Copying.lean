import BuildBroker.Tunnel.Splice
import BuildBroker.Proofs.Runs

/-!
# What a Splice Carries Over

The two directions of a splice are read and written in pieces of any size, in any order, and one of
them is given up at whatever point it has reached when the other one ends.

Main statements:
- `Splice.Recorded.of_step?`: what a splice holds is what has gone through it.
- `Splice.written_of_over`, `Splice.sentBy_of_ended`: nothing is written once copying is over, and
  nothing is sent by a side that has come to its end.
- `SpliceCall.returns_of_ended`: the call can be run until it returns once a side has come to its end.
- `SpliceCall.faithful_pipe`: each side is written a beginning of what the other one has sent, all of
  it if the other one has ended the copying, and nothing after a shutdown.
-/

namespace BuildBroker.Tunnel

/-! ## §1 Events -/

namespace SpliceEvent

/-- The octets that a side sends in an event. -/
def sent (x : Side) : SpliceEvent → Bytes
  | .sends y b => if y = x then b else []
  | _ => []

/-- Whether copying is over after an event. -/
def EndsCopying : SpliceEvent → Prop
  | .finishes _ | .fails _ => True
  | _ => False

end SpliceEvent

/-- All that a side sends in a sequence of events. -/
def sentBy (x : Side) (events : List SpliceEvent) : Bytes :=
  events.flatMap (SpliceEvent.sent x)

theorem sentBy_append (x : Side) (events more : List SpliceEvent) :
    sentBy x (events ++ more) = sentBy x events ++ sentBy x more :=
  List.flatMap_append

namespace Splice

/-- The octets of a side that are written to the other one in an event. -/
def writing (x : Side) (s : Splice) : SpliceEvent → Bytes
  | .writes y n => if y = x then (s.pipe x).held.take n else []
  | _ => []

/-- All octets of a side that are written to the other one in a sequence of events. -/
def carried (x : Side) (s : Splice) (events : List SpliceEvent) : Bytes :=
  Runs.seen step? (writing x) s events

variable {s s' : Splice} {e : SpliceEvent} {events more : List SpliceEvent}

theorem run?_eq_foldlM (s : Splice) (events : List SpliceEvent) :
    s.run? events = events.foldlM step? s := by
  induction events generalizing s with
  | nil => rfl
  | cons e es ih =>
    rw [run?, List.foldlM_cons]
    exact congrArg (s.step? e).bind (funext ih)

/-- A run is a shorter run and one more event. -/
theorem run?_concat : s.run? (events ++ [e]) = some s' ↔
    ∃ mid, s.run? events = some mid ∧ mid.step? e = some s' := by
  simp only [run?_eq_foldlM]
  exact Runs.run_concat

/-- A run up to an event, the event, and the run after it. -/
theorem run?_parts (h : s.run? (events ++ e :: more) = some s') :
    ∃ mid next, s.run? events = some mid ∧ mid.step? e = some next ∧ next.run? more = some s' := by
  rw [run?_eq_foldlM] at h
  obtain ⟨mid, hmid, hrest⟩ := Runs.run_append.mp h
  rw [List.foldlM_cons] at hrest
  obtain ⟨next, hnext, hmore⟩ := Option.bind_eq_some_iff.mp hrest
  rw [← run?_eq_foldlM] at hmid hmore
  exact ⟨mid, next, hmid, hnext, hmore⟩

/-! ## §2 One Event -/

theorem pipe_onPipe (s : Splice) (x y : Side) (f : Pipe → Pipe) :
    (s.onPipe y f).pipe x = if y = x then f (s.pipe x) else s.pipe x := by
  cases x <;> cases y <;> rfl

theorem finished_onPipe (s : Splice) (y : Side) (f : Pipe → Pipe) :
    (s.onPipe y f).finished = s.finished := by
  cases y <;> rfl

theorem isShut_onPipe (s : Splice) (x y : Side) (f : Pipe → Pipe) :
    (s.onPipe y f).isShut x = s.isShut x := by
  cases x <;> cases y <;> rfl

/-- What an event does to a splice, and when it can happen. -/
inductive Moves (s : Splice) : SpliceEvent → Splice → Prop where
  | sends {y : Side} (b : Bytes) : (s.pipe y).ended = false →
      Moves s (.sends y b) (s.onPipe y (·.send b))
  | hangsUp (y : Side) : Moves s (.hangsUp y) (s.onPipe y fun p => { p with ended := true })
  | reads (y : Side) (n : Nat) : s.finished = false → Moves s (.reads y n) (s.onPipe y (·.read n))
  | writes (y : Side) (n : Nat) : s.finished = false →
      Moves s (.writes y n) (s.onPipe y (·.write n))
  | finishes {y : Side} : s.finished = false → (s.pipe y).isDone = true →
      Moves s (.finishes y) { s with finished := true }
  | fails (y : Side) : s.finished = false → Moves s (.fails y) { s with finished := true }
  | shutsCaller : s.finished = true → Moves s (.shuts .caller) { s with callerShut := true }
  | shutsExecutor : s.finished = true → Moves s (.shuts .executor) { s with executorShut := true }

theorem moves_of_step? (h : s.step? e = some s') : s.Moves e s' := by
  -- each event has its guard: the side is open, or the copying is still or no longer going on
  cases e with
  | sends y b =>
    simp only [step?] at h
    split at h
    · cases h
    · rename_i hopen
      cases h
      exact .sends b (by simpa using hopen)
  | hangsUp y =>
    cases h
    exact .hangsUp y
  | reads y n | writes y n | fails y =>
    simp only [step?] at h
    split at h
    · cases h
    · rename_i hopen
      cases h
      constructor
      simpa using hopen
  | finishes y =>
    simp only [step?] at h
    split at h
    · rename_i hdone
      cases h
      rw [Bool.and_eq_true, Bool.not_eq_true'] at hdone
      exact .finishes hdone.1 hdone.2
    · cases h
  -- the two sides are shut one after the other, in any order
  | shuts y =>
    cases y <;>
    · simp only [step?] at h
      split at h
      · rename_i hover
        cases h
        constructor
        exact hover
      · cases h

/-- In an event the octets that are sent come behind all others, and no octet leaves its place. -/
theorem Moves.sent (h : s.Moves e s') (x : Side) :
    (s'.pipe x).sent = (s.pipe x).sent ++ e.sent x := by
  cases h with
  | @sends y b hopen =>
    rw [pipe_onPipe]
    -- an event at the other side leaves this side as it is
    by_cases hyx : y = x
    · subst hyx
      simp [Pipe.send, hopen, Pipe.sent, SpliceEvent.sent]
    · simp [hyx, SpliceEvent.sent]
  | hangsUp y =>
    rw [pipe_onPipe]
    split <;> simp [SpliceEvent.sent, Pipe.sent]
  | reads y n _ | writes y n _ =>
    -- octets move within the direction, and their order stays
    rw [pipe_onPipe]
    split <;> simp [SpliceEvent.sent]
  | finishes | fails | shutsCaller | shutsExecutor => cases x <;> simp [SpliceEvent.sent, pipe]

theorem Moves.written (h : s.Moves e s') (x : Side) :
    (s'.pipe x).written = (s.pipe x).written ++ s.writing x e := by
  cases h with
  | @sends y b hopen =>
    rw [pipe_onPipe]
    split <;> simp [writing, Pipe.send]
    split <;> rfl
  | writes y n _ =>
    rw [pipe_onPipe]
    by_cases hyx : y = x <;> simp [writing, Pipe.write, hyx]
  | hangsUp y | reads y n _ =>
    rw [pipe_onPipe]
    split <;> simp [writing, Pipe.read]
  | finishes | fails | shutsCaller | shutsExecutor => cases x <;> simp [writing, pipe]

theorem Moves.ended (h : s.Moves e s') (x : Side) :
    (s'.pipe x).ended = true ↔ (s.pipe x).ended = true ∨ e = .hangsUp x := by
  cases h with
  | @sends y b hopen =>
    rw [pipe_onPipe]
    split <;> simp [Pipe.send]
    split <;> rfl
  | hangsUp y =>
    rw [pipe_onPipe]
    by_cases hyx : y = x <;> simp [hyx]
  | reads y n _ | writes y n _ =>
    rw [pipe_onPipe]
    split <;> simp [Pipe.read, Pipe.write]
  | finishes | fails | shutsCaller | shutsExecutor => cases x <;> simp [pipe]

theorem Moves.finished_iff (h : s.Moves e s') :
    s'.finished = true ↔ s.finished = true ∨ e.EndsCopying := by
  cases h with
  | sends | hangsUp | reads | writes => simp [finished_onPipe, SpliceEvent.EndsCopying]
  | finishes | fails => simp [SpliceEvent.EndsCopying]
  | shutsCaller | shutsExecutor => simp [SpliceEvent.EndsCopying]

theorem Moves.shut (h : s.Moves e s') (x : Side) :
    s'.isShut x = true ↔ s.isShut x = true ∨ e = .shuts x := by
  cases h with
  | sends | hangsUp | reads | writes => simp [isShut_onPipe]
  | finishes | fails => cases x <;> simp [isShut]
  | shutsCaller | shutsExecutor => cases x <;> simp [isShut]

/-- Once copying is over nothing is written any more. -/
theorem Moves.writing_of_over (h : s.Moves e s') (hover : s.finished = true) (x : Side) :
    s.writing x e = [] := by
  cases h with
  | writes y n hopen =>
    rw [hover] at hopen
    cases hopen
  | _ => rfl

/-- A side that has come to its end sends nothing any more. -/
theorem Moves.sent_of_ended (h : s.Moves e s') {x : Side} (hended : (s.pipe x).ended = true) :
    e.sent x = [] := by
  cases h with
  | @sends y b hopen =>
    have hyx : y ≠ x := by
      rintro rfl
      rw [hended] at hopen
      cases hopen
    simp [SpliceEvent.sent, hyx]
  | _ => rfl

/-! ## §3 Runs -/

/-- What a splice holds is what has gone through it since its start. -/
structure Recorded (events : List SpliceEvent) (s : Splice) : Prop where
  sent : ∀ x, (s.pipe x).sent = sentBy x events
  written : ∀ x, (s.pipe x).written = start.carried x events
  ended : ∀ x, (s.pipe x).ended = true ↔ .hangsUp x ∈ events
  finished_iff : s.finished = true ↔ ∃ e ∈ events, e.EndsCopying
  shut : ∀ x, s.isShut x = true ↔ .shuts x ∈ events

theorem recorded_start : Recorded [] start where
  sent x := by cases x <;> rfl
  written x := by cases x <;> rfl
  ended x := by cases x <;> simp [start, pipe, Pipe.empty]
  finished_iff := by simp [start]
  shut x := by cases x <;> simp [start, isShut]

theorem Recorded.of_step? (h : Recorded events s) (hrun : start.run? events = some s)
    (hstep : s.step? e = some s') : Recorded (events ++ [e]) s' := by
  have hm : s.Moves e s' := moves_of_step? hstep
  have hmem : ∀ y : SpliceEvent, y ∈ events ++ [e] ↔ y ∈ events ∨ e = y := by
    intro y
    rw [List.mem_append, List.mem_singleton, eq_comm (a := y)]
  -- what the call keeps is what the events say: sent, written, ended, finished and shut
  refine ⟨?_, ?_, ?_, ?_, ?_⟩
  · intro x
    rw [hm.sent, h.sent, sentBy_append]
    simp [sentBy]
  · intro x
    rw [run?_eq_foldlM] at hrun
    rw [hm.written, h.written]
    exact (Runs.seen_concat hrun).symm
  · intro x
    rw [hm.ended, h.ended, hmem]
  · rw [hm.finished_iff, h.finished_iff]
    simp [or_and_right, exists_or]
  · intro x
    rw [hm.shut, h.shut, hmem]

theorem recorded_of_run? (h : start.run? events = some s) : Recorded events s := by
  -- what an event writes depends on the run before it, so the induction carries that too
  have hboth : start.run? events = some s ∧ Recorded events s := by
    rw [run?_eq_foldlM] at h
    refine Runs.run_induction (motive := fun events s =>
      start.run? events = some s ∧ Recorded events s) ⟨rfl, recorded_start⟩ ?_ h
    rintro events s e s' ⟨hrun, hrecorded⟩ hstep
    exact ⟨run?_concat.mpr ⟨s, hrun, hstep⟩, hrecorded.of_step? hrun hstep⟩
  exact hboth.2

/-- Nothing is written once copying is over, whatever happens. -/
theorem written_of_over (hover : s.finished = true) (h : s.run? more = some s') (x : Side) :
    (s'.pipe x).written = (s.pipe x).written := by
  -- copying stays over, which carries the induction to the next splice
  induction more generalizing s with
  | nil =>
    cases h
    rfl
  | cons e es ih =>
    obtain ⟨mid, hstep, hrest⟩ := Option.bind_eq_some_iff.mp h
    have hm : s.Moves e mid := moves_of_step? hstep
    rw [ih (hm.finished_iff.mpr (.inl hover)) hrest, hm.written, hm.writing_of_over hover,
      List.append_nil]

/-- Nothing is sent by a side that has come to its end. -/
theorem sentBy_of_ended {x : Side} (hended : (s.pipe x).ended = true) (h : s.run? more = some s') :
    sentBy x more = [] := by
  -- an end is never undone
  induction more generalizing s with
  | nil => rfl
  | cons e es ih =>
    obtain ⟨mid, hstep, hrest⟩ := Option.bind_eq_some_iff.mp h
    have hm : s.Moves e mid := moves_of_step? hstep
    have hes : sentBy x es = [] := ih ((hm.ended x).mpr (.inl hended)) hrest
    rw [← List.singleton_append, sentBy_append, hes, List.append_nil]
    simpa [sentBy] using hm.sent_of_ended hended

/-- A side that has come to its end is done as soon as everything has been read and written. -/
theorem finishes_of_ended {x : Side} (hopen : s.finished = false)
    (hended : (s.pipe x).ended = true) :
    ∃ s', s.run? [.reads x (s.pipe x).unread.length, .writes x (s.pipe x).sent.length,
      .finishes x] = some s' ∧ s'.finished = true := by
  let read : Splice := s.onPipe x (·.read (s.pipe x).unread.length)
  let written : Splice := read.onPipe x (·.write (s.pipe x).sent.length)
  have hread : s.step? (.reads x (s.pipe x).unread.length) = some read := by
    simp [step?, hopen, read]
  have hwritten : read.step? (.writes x (s.pipe x).sent.length) = some written := by
    simp [step?, read, finished_onPipe, hopen, written]
  have hdone : (written.pipe x).isDone = true := by
    simp [written, read, pipe_onPipe, Pipe.read, Pipe.write, Pipe.isDone, Pipe.sent, hended]
  have hfinished : written.step? (.finishes x) = some { written with finished := true } := by
    simp [step?, hdone, written, read, finished_onPipe, hopen]
  refine ⟨{ written with finished := true }, ?_, rfl⟩
  simp [run?, hread, hwritten, hfinished]

end Splice

/-! ## §4 The Call -/

namespace SpliceCall

open Splice

variable {k k' : SpliceCall} {e : SpliceEvent} {events more : List SpliceEvent}

theorem step?_eq_some : k.step? e = some k' ↔
    k.splice.step? e = some k'.splice ∧ k.stage.next? e = some k'.stage := by
  unfold step?
  constructor
  · intro h
    obtain ⟨splice, hsplice, hrest⟩ := Option.bind_eq_some_iff.mp h
    obtain ⟨stage, hstage, hpure⟩ := Option.bind_eq_some_iff.mp hrest
    cases hpure
    exact ⟨hsplice, hstage⟩
  · rintro ⟨hsplice, hstage⟩
    simp [hsplice, hstage]

/-- What happens to a call happens to its splice. -/
theorem splice_of_run? (h : k.run? events = some k') :
    k.splice.run? events = some k'.splice := by
  refine Runs.run_induction (motive := fun events k' =>
    k.splice.run? events = some k'.splice) rfl ?_ h
  intro events mid e last hmid hstep
  exact run?_concat.mpr ⟨mid.splice, hmid, (step?_eq_some.mp hstep).1⟩

/-- The stage of a call says how far its splice is. -/
structure InStep (k : SpliceCall) : Prop where
  finished_iff : k.splice.finished = true ↔ k.stage ≠ .copying
  caller : k.stage = .shuttingExecutor ∨ k.stage = .returned → k.splice.isShut .caller = true
  executor : k.stage = .returned → k.splice.isShut .executor = true

/-- An event leaves the call where it is, or ends its copying, or is the shutdown that comes next. -/
theorem next?_cases {stage stage' : SpliceStage} (h : stage.next? e = some stage') :
    (¬e.EndsCopying ∧ stage' = stage) ∨
    (e.EndsCopying ∧ stage = .copying ∧ stage' = .shuttingCaller) ∨
    (e = .shuts .caller ∧ stage = .shuttingCaller ∧ stage' = .shuttingExecutor) ∨
    (e = .shuts .executor ∧ stage = .shuttingExecutor ∧ stage' = .returned) := by
  unfold SpliceStage.next? at h
  split at h <;> cases h <;> simp [SpliceEvent.EndsCopying]

theorem InStep.of_step? (h : k.InStep) (hstep : k.step? e = some k') : k'.InStep := by
  obtain ⟨hsplice, hstage⟩ := step?_eq_some.mp hstep
  have hm : k.splice.Moves e k'.splice := moves_of_step? hsplice
  have hkept : ∀ x, k.splice.isShut x = true → k'.splice.isShut x = true :=
    fun x hshut => (hm.shut x).mpr (.inl hshut)
  rcases next?_cases hstage with ⟨hgoes, hsame⟩ | ⟨hends, _, hnext⟩ | ⟨hshut, hfrom, hnext⟩ |
    ⟨hshut, hfrom, hnext⟩
  · -- the call stays where it is
    refine ⟨?_, ?_, ?_⟩
    · rw [hm.finished_iff, hsame, ← h.finished_iff]
      exact or_iff_left hgoes
    · rw [hsame]
      exact fun hat => hkept .caller (h.caller hat)
    · rw [hsame]
      exact fun hat => hkept .executor (h.executor hat)
  · -- copying ends
    have hover : k'.splice.finished = true := hm.finished_iff.mpr (.inr hends)
    exact ⟨by simp [hover, hnext], by simp [hnext], by simp [hnext]⟩
  · have hover : k'.splice.finished = true :=
      hm.finished_iff.mpr (.inl (h.finished_iff.mpr (by simp [hfrom])))
    -- the caller's side has just been shut down
    exact ⟨by simp [hover, hnext], fun _ => (hm.shut .caller).mpr (.inr hshut), by simp [hnext]⟩
  · have hover : k'.splice.finished = true :=
      hm.finished_iff.mpr (.inl (h.finished_iff.mpr (by simp [hfrom])))
    -- the caller's side was shut down before, the executor's just now
    exact ⟨by simp [hover, hnext], fun _ => hkept .caller (h.caller (.inl hfrom)),
      fun _ => (hm.shut .executor).mpr (.inr hshut)⟩

theorem inStep_start : start.InStep where
  finished_iff := by simp [start, Splice.start]
  caller := by simp [start]
  executor := by simp [start]

theorem inStep_of_run? (h : start.run? events = some k) : k.InStep := by
  refine Runs.run_induction (motive := fun _ k => k.InStep) inStep_start ?_ h
  intro events mid e last hmid hstep
  exact hmid.of_step? hstep

/-- Copying goes on to its end and is followed by the shutdown of the caller's side. -/
theorem run?_copying {s s' : Splice} {x : Side} {n m : Nat}
    (h : s.run? [.reads x n, .writes x m, .finishes x] = some s') :
    (SpliceCall.mk s .copying).run? [.reads x n, .writes x m, .finishes x] =
      some ⟨s', .shuttingCaller⟩ := by
  obtain ⟨s₁, hs₁, hrest⟩ := Option.bind_eq_some_iff.mp h
  obtain ⟨s₂, hs₂, hlast⟩ := Option.bind_eq_some_iff.mp hrest
  obtain ⟨s₃, hs₃, hnil⟩ := Option.bind_eq_some_iff.mp hlast
  cases hnil
  simp [run?, step?, hs₁, hs₂, hs₃, SpliceStage.next?]

/-- When copying is over the call shuts both sides down and returns. -/
theorem run?_shutting {s : Splice} (hover : s.finished = true) :
    (SpliceCall.mk s .shuttingCaller).run? [.shuts .caller, .shuts .executor] =
      some ⟨{ s with callerShut := true, executorShut := true }, .returned⟩ := by
  simp [run?, step?, Splice.step?, hover, SpliceStage.next?]

/-- As soon as one side has come to its end, the call can be run until it returns. -/
theorem returns_of_ended {x : Side} (h : k.InStep) (hended : (k.splice.pipe x).ended = true) :
    ∃ more k', k.run? more = some k' ∧ k'.stage = .returned := by
  obtain ⟨s, stage⟩ := k
  cases stage with
  | copying =>
    have hopen : s.finished = false := by simpa using h.finished_iff
    obtain ⟨s', hcopying, hover⟩ := finishes_of_ended hopen hended
    have hlast := Runs.run_append.mpr ⟨_, run?_copying hcopying, run?_shutting hover⟩
    exact ⟨_, _, hlast, rfl⟩
  | shuttingCaller => exact ⟨_, _, run?_shutting (h.finished_iff.mpr (by simp)), rfl⟩
  | shuttingExecutor =>
    have hover : s.finished = true := h.finished_iff.mpr (by simp)
    refine ⟨[.shuts .executor], ⟨{ s with executorShut := true }, .returned⟩, ?_, rfl⟩
    simp [run?, step?, Splice.step?, hover, SpliceStage.next?]
  | returned => exact ⟨[], ⟨s, .returned⟩, rfl, rfl⟩

/-- **A splice is a faithful pipe.** At any time of any run, what has been written to one side is a
beginning of what the other side has sent. If a side ends the copying it had come to its end, and all
that it ever sends had been written before. A side is shut down only after copying is over, and from
then on nothing is written to either side. When the call returns both sides have been shut down, and
as soon as one side has come to its end the call can be run until it returns. -/
theorem faithful_pipe (h : start.run? events = some k) :
    (∀ x, Splice.start.carried x events <+: sentBy x events) ∧
    (∀ before x after, events = before ++ .finishes x :: after →
      .hangsUp x ∈ before ∧ Splice.start.carried x before = sentBy x events) ∧
    (∀ before x after, events = before ++ .shuts x :: after →
      (∃ e ∈ before, e.EndsCopying) ∧
        ∀ y, Splice.start.carried y events = Splice.start.carried y before) ∧
    (k.stage = .returned → ∀ x, .shuts x ∈ events) ∧
    ∀ x, .hangsUp x ∈ events → ∃ more k', k.run? more = some k' ∧ k'.stage = .returned := by
  have hrun : Splice.start.run? events = some k.splice := splice_of_run? h
  have hinStep : k.InStep := inStep_of_run? h
  have hrecorded : Recorded events k.splice := recorded_of_run? hrun
  refine ⟨?_, ?_, ?_, ?_, ?_⟩
  · -- what is written stands first among all that was sent
    intro x
    rw [← hrecorded.written, ← hrecorded.sent, Pipe.sent, List.append_assoc]
    exact List.prefix_append _ _
  · intro before x after hevents
    subst hevents
    obtain ⟨mid, next, hmid, hstep, hafter⟩ := run?_parts hrun
    have hbefore : Recorded before mid := recorded_of_run? hmid
    have hm : mid.Moves (.finishes x) next := moves_of_step? hstep
    have hdone : (mid.pipe x).isDone = true := by
      cases hm with
      | finishes _ hdone => exact hdone
    simp only [Pipe.isDone, Bool.and_eq_true, List.isEmpty_iff] at hdone
    obtain ⟨⟨hended, hunread⟩, hheld⟩ := hdone
    have hnext : (next.pipe x).ended = true := (hm.ended x).mpr (.inl hended)
    -- what it had sent is written, and it sends nothing any more
    have hall : Splice.start.carried x before = sentBy x before := by
      rw [← hbefore.written, ← hbefore.sent, Pipe.sent, hunread, hheld, List.append_nil,
        List.append_nil]
    refine ⟨(hbefore.ended x).mp hended, ?_⟩
    rw [hall, sentBy_append, ← List.singleton_append, sentBy_append, sentBy_of_ended hnext hafter]
    simp [sentBy, SpliceEvent.sent]
  · intro before x after hevents
    subst hevents
    obtain ⟨mid, next, hmid, hstep, hafter⟩ := run?_parts hrun
    have hbefore : Recorded before mid := recorded_of_run? hmid
    have hm : mid.Moves (.shuts x) next := moves_of_step? hstep
    have hover : mid.finished = true := by
      cases hm with
      | shutsCaller hover => exact hover
      | shutsExecutor hover => exact hover
    refine ⟨hbefore.finished_iff.mp hover, ?_⟩
    intro y
    rw [← hrecorded.written, ← hbefore.written,
      written_of_over (hm.finished_iff.mpr (.inl hover)) hafter, hm.written]
    exact List.append_nil _
  · intro hreturned x
    apply (hrecorded.shut x).mp
    cases x with
    | caller => exact hinStep.caller (.inr hreturned)
    | executor => exact hinStep.executor hreturned
  · intro x hhung
    exact returns_of_ended hinStep ((hrecorded.ended x).mpr hhung)

/-- The caller says three octets and leaves while the executor is still talking. -/
def hastyCaller : List SpliceEvent :=
  [.sends .caller [108, 115, 10], .reads .caller 2, .sends .executor [1, 2], .reads .executor 2,
    .writes .caller 1, .writes .executor 1, .hangsUp .caller, .reads .caller 5, .writes .caller 5,
    .finishes .caller, .sends .executor [3], .shuts .caller, .shuts .executor]

/-- The executor has been written all that the caller said, and the caller a beginning of what the
executor said. -/
theorem faithful_pipe_hastyCaller :
    ∃ k, start.run? hastyCaller = some k ∧ k.stage = .returned ∧
      (∀ x, .shuts x ∈ hastyCaller) ∧
      Splice.start.carried .caller hastyCaller = [108, 115, 10] ∧
      Splice.start.carried .executor hastyCaller = [1] ∧
      Splice.start.carried .executor hastyCaller <+: [1, 2, 3] := by
  have hreturns : (start.run? hastyCaller).map (·.stage) = some .returned := by decide
  obtain ⟨k, hk, hreturned⟩ := Option.map_eq_some_iff.mp hreturns
  obtain ⟨hbeginning, _, _, hboth, _⟩ := faithful_pipe hk
  exact ⟨k, hk, hreturned, hboth hreturned, rfl, rfl, hbeginning .executor⟩

end SpliceCall

end BuildBroker.Tunnel
