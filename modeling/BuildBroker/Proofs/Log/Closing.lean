import Mathlib.Data.List.Induction
import BuildBroker.Proofs.Log.FanOut

/-!
# The End of a Log

Closing a log sets its mark and cuts off the observers in one step, and announces the end in a later
one; a call that attaches an observer begins to watch for the announcement in one step, lets the
observer join in another, and may wait in between. This module shows that nothing can go wrong
between the two, whatever happens in which order.

Main statements:
- `Channel.liveObservers_join`: what a join adds to the live observers.
- `Desk.stage_advance`: what one step does to a call.
- `Desk.announced_run_iff`: the end is announced exactly after a close that was accepted.
- `Desk.later_of_waiting`: a call that waits returns by seeing the announcement, or not at all.
- `Desk.end_reaches_all`: the four things that calls, appends and closings rely on.
-/

namespace BuildBroker.Log

/-! ## §1 Live observers -/

namespace Channel

/-- The observers that are sent further chunks. -/
def liveObservers (ch : Channel) : List Observer :=
  ch.observers.filter (·.live)

theorem liveCount_eq (ch : Channel) : ch.liveCount = ch.liveObservers.length := rfl

/-- Who joins and stays live comes after the others; who does not is not among them. -/
theorem liveObservers_join (ch : Channel) (capacity : Nat) (reading : Bool) :
    (ch.join capacity reading).1.liveObservers =
      ch.liveObservers ++
        if ch.closed = false ∧ Fits ch.history capacity reading then
          [.joining ch.history ch.closed capacity reading]
        else [] := by
  have hlive := Observer.live_joining_iff ch.history ch.closed capacity reading
  simp only [liveObservers, join, List.filter_append]
  split
  · rename_i hstays
    rw [List.filter_cons_of_pos (hlive.mpr hstays), List.filter_nil]
  · rename_i hcut
    rw [List.filter_cons_of_neg (fun h => hcut (hlive.mp h)), List.filter_nil]

theorem Sound.liveObservers_of_closed {ch : Channel} (h : ch.Sound) (hclosed : ch.closed = true) :
    ch.liveObservers = [] := by
  apply List.filter_eq_nil_iff.mpr
  intro o ho
  simp [h.quiet hclosed o ho]

end Channel

/-! ## §2 One step of a call -/

namespace Desk

/-- How far a call has come, if there is such a call. -/
def stage? (d : Desk) (i : Nat) : Option AttachStage :=
  (d.calls[i]?).map (·.stage)

theorem stage?_of_call {d : Desk} {i capacity : Nat} {reading : Bool} {x : AttachStage}
    (h : d.calls[i]? = some ⟨capacity, reading, x⟩) : d.stage? i = some x := by
  simp [stage?, h]

theorem stage?_setStage (d : Desk) (i j : Nat) (x : AttachStage) :
    (d.setStage i x).stage? j = if i = j then (d.stage? j).map fun _ => x else d.stage? j := by
  simp only [stage?, setStage, List.getElem?_modify]
  split <;> cases d.calls[j]? <;> rfl

/-- A call whose observer joins waits if the observer stays live, and returns at once if not. -/
theorem stage?_register {d : Desk} {i capacity : Nat} {reading : Bool}
    (h : d.calls[i]? = some ⟨capacity, reading, .watching⟩) :
    (d.register i capacity reading).stage? i = some (
      if d.channel.closed = false ∧ Fits d.channel.history capacity reading then
        .waiting d.channel.observers.length
      else .returned d.channel.observers.length) := by
  have hlive := Observer.live_joining_iff d.channel.history d.channel.closed capacity reading
  have hstage : ∀ channel, stage? { d with channel } i = some .watching := fun _ => stage?_of_call h
  simp only [register, stage?_setStage, if_true, hstage, Option.map_some, Channel.join,
    List.getElem?_concat_length, Option.getD_some, hlive]

/-- The ways in which a step moves a call on. -/
inductive CallMove (d : Desk) (i : Nat) : DeskStep → Option AttachStage → Option AttachStage → Prop
  | stays (s : DeskStep) (x : Option AttachStage) : CallMove d i s x x
  | begins (capacity : Nat) : CallMove d i (.attach capacity) none (some .watching)
  | joins (o : Nat) : CallMove d i (.register i) (some .watching) (some (.waiting o))
  | turnsBack (o : Nat) : CallMove d i (.register i) (some .watching) (some (.returned o))
  | resumes (o : Nat) (h : d.announced = true) :
      CallMove d i (.resume i) (some (.waiting o)) (some (.returned o))
  | givesUpWatching : CallMove d i (.cancel i) (some .watching) (some .cancelled)
  | givesUpWaiting (o : Nat) : CallMove d i (.cancel i) (some (.waiting o)) (some .cancelled)

/-- Setting the stage of one call leaves the others where they are. -/
private theorem moves_setStage {d : Desk} {i j : Nat} {s : DeskStep} {x : AttachStage}
    (h : i = j → CallMove d j s (d.stage? j) (some x)) (hi : (d.stage? i).isSome = true) :
    CallMove d j s (d.stage? j) ((d.setStage i x).stage? j) := by
  rw [stage?_setStage]
  split
  · rename_i hij
    subst hij
    obtain ⟨y, hy⟩ := Option.isSome_iff_exists.mp hi
    have hmove := h rfl
    rw [hy] at hmove ⊢
    exact hmove
  · exact .stays _ _

/-- What one step does to a call. -/
theorem stage_advance (d : Desk) (s : DeskStep) (j : Nat) :
    CallMove d j s (d.stage? j) ((d.advance s).stage? j) := by
  unfold advance
  -- only a step that names the call sets its stage; the others are told apart by the lookup
  cases s with
  | attach capacity =>
    simp only [step?, Option.getD_some, stage?, List.getElem?_append]
    split
    · exact .stays _ _
    · -- the new call is the one after the last
      rename_i hlt
      rw [List.getElem?_eq_none (by omega)]
      cases hj : j - d.calls.length with
      | zero => exact .begins capacity
      | succ k => exact .stays _ _
  | forsake i =>
    have hsame : ((d.step? (.forsake i)).getD d).stage? j = d.stage? j := by
      simp only [step?]
      split
      · simp only [Option.getD_some, stage?, List.getElem?_modify]
        split <;> cases d.calls[j]? <;> rfl
      · rfl
    rw [hsame]
    exact .stays _ _
  | register i =>
    simp only [step?]
    split
    · rename_i capacity reading hcall
      by_cases hij : i = j
      · subst hij
        rw [Option.getD_some, stage?_register hcall, stage?_of_call hcall]
        split
        · exact .joins _
        · exact .turnsBack _
      · have hsame : (d.register i capacity reading).stage? j = d.stage? j := by
          simp only [register, stage?_setStage, if_neg hij]
          rfl
        rw [Option.getD_some, hsame]
        exact .stays _ _
    · exact .stays _ _
  | resume i =>
    simp only [step?]
    split
    · rename_i capacity reading o hcall
      have hstage := stage?_of_call hcall
      split
      · rename_i hannounced
        refine moves_setStage ?_ (by simp [hstage])
        rintro rfl
        rw [hstage]
        exact .resumes o hannounced
      · exact .stays _ _
    · exact .stays _ _
  | cancel i =>
    simp only [step?]
    split
    · rename_i hcall
      refine moves_setStage ?_ (by simp [stage?_of_call hcall])
      rintro rfl
      rw [stage?_of_call hcall]
      exact .givesUpWatching
    · rename_i hcall
      refine moves_setStage ?_ (by simp [stage?_of_call hcall])
      rintro rfl
      rw [stage?_of_call hcall]
      exact .givesUpWaiting _
    · exact .stays _ _
  | close =>
    simp only [step?]
    cases d.channel.close? <;> exact .stays _ _
  | announce =>
    simp only [step?]
    split <;> exact .stays _ _
  | _ => exact .stays _ _

/-! ## §3 When the end is announced -/

/-- In a run at a fresh log a close has been accepted. -/
def HasClosed (steps : List DeskStep) : Prop :=
  ∃ before after, steps = before ++ .close :: after ∧ (empty.run before).channel.closed = false

/-- In a run at a fresh log a close that was accepted has made its announcement, and returned. -/
def HasAnnounced (steps : List DeskStep) : Prop :=
  ∃ before after, steps = before ++ .announce :: after ∧ HasClosed before ∧
    (empty.run before).closing ≠ 0

theorem HasClosed.append {steps : List DeskStep} (h : HasClosed steps) (more : List DeskStep) :
    HasClosed (steps ++ more) := by
  obtain ⟨before, after, rfl, hopen⟩ := h
  exact ⟨before, after ++ more, by simp, hopen⟩

theorem HasAnnounced.append {steps : List DeskStep} (h : HasAnnounced steps)
    (more : List DeskStep) : HasAnnounced (steps ++ more) := by
  obtain ⟨before, after, rfl, hclosed⟩ := h
  exact ⟨before, after ++ more, by simp, hclosed⟩

theorem run_concat (d : Desk) (steps : List DeskStep) (s : DeskStep) :
    d.run (steps ++ [s]) = (d.run steps).advance s :=
  run_append d steps [s]

theorem closed_run {d : Desk} (h : d.channel.closed = true) (steps : List DeskStep) :
    (d.run steps).channel.closed = true := by
  induction steps generalizing d with
  | nil => exact h
  | cons s rest ih => exact ih (closed_advance h s).1

/-- What a step does to the closings under way and to the announcement: only a close that is
accepted and the announcement after it have a part in them. -/
theorem told_advance (d : Desk) (s : DeskStep) :
    ((d.advance s).closing, (d.advance s).announced) =
      match s with
      | .close => (if d.channel.closed then d.closing else d.closing + 1, d.announced)
      | .announce => if d.closing = 0 then (d.closing, d.announced) else (d.closing - 1, true)
      | _ => (d.closing, d.announced) := by
  unfold advance
  -- the two steps that count the announcements, and the others, which leave them alone
  cases s with
  | close =>
    simp only [step?, Channel.close?]
    split <;> rfl
  | announce =>
    simp only [step?]
    split <;> rfl
  | forsake i =>
    simp only [step?]
    split <;> rfl
  | register i =>
    simp only [step?]
    split <;> rfl
  | resume i =>
    simp only [step?]
    split
    · split <;> rfl
    · rfl
  | cancel i =>
    simp only [step?]
    split <;> rfl
  | _ => rfl

theorem closing_of_advance {d : Desk} {s : DeskStep} (h : (d.advance s).closing ≠ 0) :
    d.closing ≠ 0 ∨ s = .close ∧ d.channel.closed = false := by
  have htold := congrArg Prod.fst (told_advance d s)
  rw [show (d.advance s).closing = _ from htold] at h
  cases s with
  | close =>
    cases hclosed : d.channel.closed with
    | false => exact .inr ⟨rfl, rfl⟩
    | true => simpa [hclosed] using h
  | announce =>
    left
    intro hzero
    simp [hzero] at h
  | _ => exact .inl h

theorem announced_of_advance {d : Desk} {s : DeskStep} (h : (d.advance s).announced = true) :
    d.announced = true ∨ s = .announce ∧ d.closing ≠ 0 := by
  have htold := congrArg Prod.snd (told_advance d s)
  rw [show (d.advance s).announced = _ from htold] at h
  cases s with
  | announce =>
    by_cases hzero : d.closing = 0
    · simp only [hzero, if_true] at h
      exact .inl h
    · exact .inr ⟨rfl, hzero⟩
  | _ => exact .inl h

/-- An announcement that was made is there for good. -/
theorem announced_advance {d : Desk} (h : d.announced = true) (s : DeskStep) :
    (d.advance s).announced = true := by
  have htold := congrArg Prod.snd (told_advance d s)
  rw [show (d.advance s).announced = _ from htold]
  cases s with
  | announce =>
    simp only
    split
    · exact h
    · rfl
  | _ => exact h

theorem announced_run {d : Desk} (h : d.announced = true) (steps : List DeskStep) :
    (d.run steps).announced = true := by
  induction steps generalizing d with
  | nil => exact h
  | cons s rest ih => exact ih (announced_advance h s)

theorem hasClosed_of_closing {steps : List DeskStep} (h : (empty.run steps).closing ≠ 0) :
    HasClosed steps := by
  induction steps using List.reverseRecOn with
  | nil => exact absurd rfl h
  | append_singleton steps s ih =>
    rw [run_concat] at h
    rcases closing_of_advance h with hold | ⟨rfl, hopen⟩
    · exact (ih hold).append _
    · exact ⟨steps, [], rfl, hopen⟩

/-- The end is announced exactly after a close that was accepted. -/
theorem announced_run_iff (steps : List DeskStep) :
    (empty.run steps).announced = true ↔ HasAnnounced steps := by
  constructor
  · intro h
    induction steps using List.reverseRecOn with
    | nil => cases h
    | append_singleton steps s ih =>
      rw [run_concat] at h
      rcases announced_of_advance h with hold | ⟨rfl, hclosing⟩
      · exact (ih hold).append _
      · exact ⟨steps, [], rfl, hasClosed_of_closing hclosing, hclosing⟩
  · rintro ⟨before, after, rfl, -, hclosing⟩
    rw [run_append]
    have htold := congrArg Prod.snd (told_advance (empty.run before) .announce)
    simp only [if_neg hclosing] at htold
    exact announced_run htold after

theorem closed_of_hasClosed {steps : List DeskStep} (h : HasClosed steps) :
    (empty.run steps).channel.closed = true := by
  obtain ⟨before, after, rfl, hopen⟩ := h
  rw [run_append]
  refine closed_run ?_ after
  rw [channel_advance]
  simp [Channel.close?, hopen]

/-- Once the end is announced the log is closed. -/
theorem closed_of_hasAnnounced {steps : List DeskStep} (h : HasAnnounced steps) :
    (empty.run steps).channel.closed = true := by
  obtain ⟨before, after, rfl, hclosed, -⟩ := h
  exact closed_of_hasClosed (hclosed.append _)

/-! ## §4 Runs of a call -/

/-- A call that waits still waits later, or has been given up, or has returned: and then by a step
that saw the announcement. -/
theorem later_of_waiting (before after : List DeskStep) {i o : Nat}
    (h : (empty.run before).stage? i = some (.waiting o)) :
    (empty.run (before ++ after)).stage? i = some (.waiting o) ∨
      (empty.run (before ++ after)).stage? i = some .cancelled ∨
      (empty.run (before ++ after)).stage? i = some (.returned o) ∧
        ∃ mid rest, after = mid ++ .resume i :: rest ∧ HasAnnounced (before ++ mid) := by
  induction after using List.reverseRecOn with
  | nil => exact .inl (by simpa using h)
  | append_singleton after s ih =>
    have hmove := stage_advance (empty.run (before ++ after)) s i
    rw [← run_concat, List.append_assoc] at hmove
    -- one more step: the moves of a call are few where it waits, and none where it is over
    rcases ih with hwaits | hgone | ⟨hback, mid, rest, rfl, hannounced⟩
    · rw [hwaits] at hmove
      generalize (empty.run (before ++ (after ++ [s]))).stage? i = x at hmove
      cases hmove with
      | stays => exact .inl rfl
      | resumes _ hannounced =>
        exact .inr (.inr ⟨rfl, after, [], rfl, (announced_run_iff _).mp hannounced⟩)
      | givesUpWaiting => exact .inr (.inl rfl)
    · rw [hgone] at hmove
      generalize (empty.run (before ++ (after ++ [s]))).stage? i = x at hmove
      cases hmove with
      | stays => exact .inr (.inl rfl)
    · rw [hback] at hmove
      generalize (empty.run (before ++ (mid ++ .resume i :: rest ++ [s]))).stage? i = x at hmove
      cases hmove with
      | stays => exact .inr (.inr ⟨rfl, mid, rest ++ [s], by simp, hannounced⟩)

/-- Once the end is announced, a call that waits can return, and one that has not joined yet returns
when it does. -/
theorem returns_of_announced {steps : List DeskStep} (h : HasAnnounced steps) {i : Nat}
    (hpending : (empty.run steps).isPending i = true) :
    ∃ s o d', (s = .register i ∨ s = .resume i) ∧ (empty.run steps).step? s = some d' ∧
      d'.stage? i = some (.returned o) := by
  have hclosed := closed_of_hasAnnounced h
  unfold isPending at hpending
  split at hpending
  · -- who has not joined yet finds the log closed when joining, and does not wait at all
    rename_i capacity reading hcall
    have hstage := stage?_register hcall
    rw [hclosed, if_neg (by simp)] at hstage
    exact ⟨.register i, _, _, .inl rfl, by simp only [step?, hcall], hstage⟩
  · -- who waits sees the announcement, which is never taken back
    rename_i capacity reading o hcall
    have hannounced := (announced_run_iff steps).mpr h
    refine ⟨.resume i, o, (empty.run steps).setStage i (.returned o), .inr rfl,
      by simp only [step?, hcall, hannounced, if_true], ?_⟩
    rw [stage?_setStage, if_pos rfl, stage?_of_call hcall]
    rfl
  · cases hpending

/-- What holds of a log from the end on. -/
structure Over (history : List Bytes) (d : Desk) : Prop where
  closed : d.channel.closed = true
  nobody : d.channel.liveObservers = []
  frozen : d.channel.history = history
  refuses : ∀ chunk, d.channel.append chunk = (d.channel, false)
  closes_once : d.channel.close? = none
  keeps : d.advance .close = d

theorem over_of_closed {d : Desk} (hsound : d.channel.Sound) (h : d.channel.closed = true)
    (after : List DeskStep) : Over d.channel.history (d.run after) := by
  have hclosed := closed_run h after
  have hnone : (d.run after).channel.close? = none := by simp [Channel.close?, hclosed]
  refine ⟨hclosed, (sound_run hsound after).liveObservers_of_closed hclosed, ?_, ?_, hnone, ?_⟩
  · rw [history_run, accepted_of_closed h, List.append_nil]
  · intro chunk
    simp [Channel.append, hclosed]
  · simp [advance, step?, hnone]

/-- **Attaching, closing and appending agree.** In every run at a fresh log: a call that waits
returns only by a step that sees the announcement of a close; from the announcement on every pending
call can return; who joins waits and is live exactly if the log is open and its history fits, and
returns at once otherwise, leaving the live observers as they are; and once the log is closed,
nobody is live any more, the history is frozen, and further appends and closings are refused without
effect. -/
theorem end_reaches_all (steps : List DeskStep) :
    (∀ before after i o o', steps = before ++ after →
      (empty.run before).stage? i = some (.waiting o) →
      (empty.run steps).stage? i = some (.returned o') →
      ∃ mid rest, after = mid ++ .resume i :: rest ∧ HasAnnounced (before ++ mid)) ∧
    (HasAnnounced steps → ∀ i, (empty.run steps).isPending i = true →
      ∃ s o d', (s = .register i ∨ s = .resume i) ∧ (empty.run steps).step? s = some d' ∧
        d'.stage? i = some (.returned o)) ∧
    (∀ i capacity reading, (empty.run steps).calls[i]? = some ⟨capacity, reading, .watching⟩ →
      ∃ d, (empty.run steps).step? (.register i) = some d ∧
      if (empty.run steps).channel.closed = false ∧
          Fits (empty.run steps).channel.history capacity reading then
        d.stage? i = some (.waiting (empty.run steps).channel.observers.length) ∧
          ∃ o, d.channel.liveObservers = (empty.run steps).channel.liveObservers ++ [o]
      else
        d.stage? i = some (.returned (empty.run steps).channel.observers.length) ∧
          d.channel.liveObservers = (empty.run steps).channel.liveObservers) ∧
    ∀ before after, steps = before ++ after → (empty.run before).channel.closed = true →
      Over (empty.run before).channel.history (empty.run steps) := by
  refine ⟨?_, fun h i hpending => returns_of_announced h hpending, ?_, ?_⟩
  -- between waiting and having returned lies the step that saw the announcement
  · rintro before after i o o' rfl hwaits hreturned
    rcases later_of_waiting before after hwaits with hstill | hgone | ⟨-, htrail⟩
    · rw [hstill] at hreturned
      cases hreturned
    · rw [hgone] at hreturned
      cases hreturned
    · exact htrail
  -- registering looks at the log as it is then: the observer stays if it is open and has room
  · intro i capacity reading hcall
    refine ⟨(empty.run steps).register i capacity reading, by simp only [step?, hcall], ?_⟩
    have hstage := stage?_register hcall
    have hlive := Channel.liveObservers_join (empty.run steps).channel capacity reading
    split
    · rename_i hstays
      rw [if_pos hstays] at hstage hlive
      exact ⟨hstage, _, hlive⟩
    · rename_i hcut
      rw [if_neg hcut] at hstage hlive
      exact ⟨hstage, hlive.trans (List.append_nil _)⟩
  -- a closed log stays closed
  · rintro before after rfl hclosed
    rw [run_append]
    exact over_of_closed (sound_run Channel.sound_empty before) hclosed after

/-- Of three calls one waits when the log closes, one watches then and joins later, and the queue of
one is too small for the history. -/
def threeCalls : List DeskStep :=
  [.append [97], .append [98], .attach 8, .attach 8, .attach 1, .register 0, .register 2, .close,
    .announce]

/-- The call that waits returns by the announcement. The one that has not joined yet returns as soon
as it does, and the one with the small queue has returned before the end; neither is among the live
observers, of which there are none for good. -/
theorem end_reaches_threeCalls :
    (∃ mid rest, [.close, .announce, .resume 0] = mid ++ .resume 0 :: rest ∧
      HasAnnounced (threeCalls.take 7 ++ mid)) ∧
    (∃ s o d', (s = .register 1 ∨ s = .resume 1) ∧ (empty.run threeCalls).step? s = some d' ∧
      d'.stage? 1 = some (.returned o)) ∧
    (∃ d, (empty.run (threeCalls.take 6)).step? (.register 2) = some d ∧
      d.stage? 2 = some (.returned 1) ∧ d.channel.liveCount = 1) ∧
    Over [[97], [98]]
      (empty.run (threeCalls ++ [.append [99], .register 1, .close, .resume 0])) := by
  have hannounced : HasAnnounced threeCalls := (announced_run_iff _).mp (by decide)
  refine ⟨?_, ?_, ?_, ?_⟩
  · have hreturns := (end_reaches_all (threeCalls ++ [.resume 0])).1
    exact hreturns (threeCalls.take 7) [.close, .announce, .resume 0] 0 0 0 rfl (by decide)
      (by decide)
  · exact (end_reaches_all threeCalls).2.1 hannounced 1 (by decide)
  · obtain ⟨d, hd, hjoined⟩ := (end_reaches_all (threeCalls.take 6)).2.2.1 2 1 true (by decide)
    rw [if_neg (by decide)] at hjoined
    refine ⟨d, hd, hjoined.1, ?_⟩
    rw [Channel.liveCount_eq, hjoined.2]
    decide
  · have hover := (end_reaches_all (threeCalls ++ [.append [99], .register 1, .close,
      .resume 0])).2.2.2
    exact hover threeCalls [.append [99], .register 1, .close, .resume 0] rfl (by decide)

end Desk

end BuildBroker.Log
