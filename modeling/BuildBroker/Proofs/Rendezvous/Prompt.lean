import BuildBroker.Rendezvous.Clock
import BuildBroker.Proofs.Rendezvous.Turns
import BuildBroker.Proofs.Runs

/-!
# Nobody Waits in Vain

A call that is woken looks at the slot again, and it is woken only if it waits already; nothing is
kept for one that comes later. So a call may begin to wait only while the slot is not as it needs
it, and whatever changes the slot has to wake all who wait for that change. Then, once every call
has taken all the turns it can, what is in the slot is wanted by nobody, and nobody is late.

Main statements:
- `ClockMoves`, `clockMoves_of_step?`: what a step under a clock does, and that it does no more.
- `Attentive`, `Attentive.of_play`: who waits unwoken waits for a change that is still to come.
- `deadlines_of_play`: deadlines are set when calls start, and never again.
- `unrest_of_play`: calls that take turns come to rest.
- `Clocked.Prompt`, `Clocked.prompt_of_atRest`: how things stand at rest.
-/

namespace BuildBroker.Rendezvous

variable {α : Type}

/-! ## §1 Steps under a Clock -/

/-- What a step under a clock does to the rendezvous. -/
inductive ClockMoves (c : Clocked α) : ClockStep α → Rendezvous α → Prop where
  | deliver (item : α) (timeout : Nat) :
      ClockMoves c (.deliver item timeout) (c.rendezvous.startDelivery item (c.now + timeout))
  | fetch (timeout : Nat) :
      ClockMoves c (.fetch timeout) (c.rendezvous.startFetch (c.now + timeout))
  | deliveryTurn {t : Nat} {d : Delivery α} {r' : Rendezvous α} :
      DeliveryTurn c.now c.rendezvous t d r' → ClockMoves c (.deliveryTurn t) r'
  | fetchTurn {f : Nat} {g : Fetch} {r' : Rendezvous α} :
      FetchTurn c.now c.rendezvous f g r' → ClockMoves c (.fetchTurn f) r'
  | drop (t : Nat) : ClockMoves c (.cancelDelivery t) (c.rendezvous.setDelivery t .cancelled)
  /-- A delivery is given up while its item is in the slot. -/
  | withdraw (t : Nat) : ClockMoves c (.cancelDelivery t)
      (((c.rendezvous.setPickup t .lost).clear).setDelivery t .cancelled)
  | dropFetch (f : Nat) : ClockMoves c (.cancelFetch f) (c.rendezvous.setFetch f .cancelled)
  | finish (f t : Nat) (o : Outcome) : ClockMoves c (.finish f o) (c.rendezvous.report t o)
  | wait (ms : Nat) : ClockMoves c (.wait ms) c.rendezvous

section Inversion

variable {c c' : Clocked α}

private theorem clockMoves_cancelDelivery {t : Nat} (hwait : c.rendezvous.deliveryWaits t = true) :
    ClockMoves c (.cancelDelivery t) (c.rendezvous.cancelDelivery t) := by
  unfold deliveryWaits at hwait
  unfold cancelDelivery Rendezvous.withdraw
  split
  · exact .drop t
  · exact .drop t
  · split
    · exact .withdraw t
    · exact .drop t
  · -- a delivery that waits is at one of the stages above
    rename_i hparked hdraining hoffered
    split at hwait
    · exact (hparked _ ‹_›).elim
    · exact (hoffered ‹_›).elim
    · exact (hdraining ‹_›).elim
    · cases hwait

private theorem clockMoves_cancelFetch {f : Nat} (hwait : c.rendezvous.fetchWaits f = true) :
    ClockMoves c (.cancelFetch f) (c.rendezvous.cancelFetch f) := by
  unfold fetchWaits at hwait
  unfold cancelFetch
  split
  · exact .dropFetch f
  · rename_i hparked
    split at hwait
    · exact (hparked _ ‹_›).elim
    · cases hwait

theorem clockMoves_of_step? {s : ClockStep α} (h : c.step? s = some c') :
    ClockMoves c s c'.rendezvous := by
  -- a step of the clocked rendezvous is a step of the rendezvous at the time of the clock
  have taken {x : Step α} (hx : c.takes? x = some c') :
      c.rendezvous.step? x = some c'.rendezvous := by
    obtain ⟨r', hr', rfl⟩ := Option.map_eq_some_iff.mp hx
    exact hr'
  cases s with
  | deliver item timeout =>
    cases h
    exact .deliver item timeout
  | fetch timeout =>
    cases h
    exact .fetch timeout
  | deliveryTurn t =>
    obtain ⟨d, -, hturn⟩ := deliveryTurn_of_turn? (taken h)
    exact .deliveryTurn hturn
  | fetchTurn f =>
    obtain ⟨g, -, hturn⟩ := fetchTurn_of_turn? (taken h)
    exact .fetchTurn hturn
  | cancelDelivery t =>
    have hstep := taken h
    simp only [Rendezvous.step?] at hstep
    split at hstep
    · rename_i hwait
      rw [← Option.some.inj hstep]
      exact clockMoves_cancelDelivery hwait
    · cases hstep
  | cancelFetch f =>
    have hstep := taken h
    simp only [Rendezvous.step?] at hstep
    split at hstep
    · rename_i hwait
      rw [← Option.some.inj hstep]
      exact clockMoves_cancelFetch hwait
    · cases hstep
  | finish f o =>
    have hstep := taken h
    simp only [Rendezvous.step?] at hstep
    split at hstep
    · rename_i t _
      split at hstep
      · rw [← Option.some.inj hstep]
        exact .finish f t o
      · cases hstep
    · cases hstep
  -- while time passes the rendezvous stays as it is
  | wait ms =>
    cases h
    exact .wait ms

end Inversion

/-! ## §2 Who Waits, Waits for a Change -/

/-- A delivery that waits unwoken has an item before it in the slot, and a fetch has none. -/
structure Attentive (r : Rendezvous α) : Prop where
  deliveries : ∀ t, r.deliveryStage? t = some (.parked false) → r.slot ≠ none
  fetches : ∀ f, r.fetchStage? f = some (.parked false) → r.slot = none

theorem deliveryStage?_clear_ne (r : Rendezvous α) (t : Nat) :
    r.clear.deliveryStage? t ≠ some (.parked false) := by
  intro hs
  obtain ⟨d, hd, hstage⟩ := Option.map_eq_some_iff.mp hs
  rw [deliveries_clear] at hd
  obtain ⟨e, -, rfl⟩ := Option.map_eq_some_iff.mp hd
  -- whoever waited is marked, and nobody else came to wait by the mark
  unfold Delivery.wake at hstage
  split at hstage
  · cases hstage
  · rename_i hnot
    exact hnot false hstage

theorem fetchStage?_wakeFetches_ne (r : Rendezvous α) (f : Nat) :
    r.wakeFetches.fetchStage? f ≠ some (.parked false) := by
  intro hs
  simp only [fetchStage?, wakeFetches, List.getElem?_map] at hs
  obtain ⟨g, hg, hstage⟩ := Option.map_eq_some_iff.mp hs
  obtain ⟨e, -, rfl⟩ := Option.map_eq_some_iff.mp hg
  -- as above, for fetches
  unfold Fetch.wake at hstage
  split at hstage
  · cases hstage
  · rename_i hnot
    exact hnot false hstage

namespace Attentive

variable {r r' : Rendezvous α} {t f : Nat}

theorem startDelivery (h : r.Attentive) (item : α) (deadline : Nat) :
    (r.startDelivery item deadline).Attentive := by
  refine ⟨?_, h.fetches⟩
  intro t hs
  simp only [deliveryStage?, deliveries_startDelivery] at hs
  split at hs
  · cases hs
  · exact h.deliveries t hs

theorem startFetch (h : r.Attentive) (deadline : Nat) : (r.startFetch deadline).Attentive := by
  refine ⟨h.deliveries, ?_⟩
  intro f hs
  simp only [fetchStage?, Rendezvous.startFetch, List.getElem?_append] at hs
  split at hs
  · exact h.fetches f hs
  · rw [List.getElem?_singleton] at hs
    split at hs <;> cases hs

/-- A delivery may begin to wait while the slot is occupied. -/
theorem setDelivery (h : r.Attentive) {stage : DeliverStage}
    (hwait : stage = .parked false → r.slot ≠ none) : (r.setDelivery t stage).Attentive := by
  refine ⟨?_, h.fetches⟩
  intro u hs
  rw [deliveryStage?_setDelivery] at hs
  obtain ⟨old, hold, heq⟩ := Option.map_eq_some_iff.mp hs
  split at heq
  · exact hwait heq
  · exact h.deliveries u (heq ▸ hold)

/-- A fetch may begin to wait while the slot is empty. -/
theorem setFetch (h : r.Attentive) {stage : FetchStage}
    (hwait : stage = .parked false → r.slot = none) : (r.setFetch f stage).Attentive := by
  refine ⟨h.deliveries, ?_⟩
  intro g hs
  rw [fetchStage?_setFetch] at hs
  obtain ⟨old, hold, heq⟩ := Option.map_eq_some_iff.mp hs
  split at heq
  · exact hwait heq
  · exact h.fetches g (heq ▸ hold)

/-- Whoever clears the slot wakes all deliveries that wait. -/
theorem clear (r : Rendezvous α) : r.clear.Attentive :=
  ⟨fun t hs => absurd hs (deliveryStage?_clear_ne r t), fun _ _ => rfl⟩

/-- Whoever places an item wakes all fetches that wait. -/
theorem place (r : Rendezvous α) (t : Nat) :
    ({ r with slot := some t }).wakeFetches.Attentive :=
  ⟨fun _ _ => Option.some_ne_none t, fun f hs => absurd hs (fetchStage?_wakeFetches_ne _ f)⟩

theorem report (h : r.Attentive) (t : Nat) (o : Outcome) : (r.report t o).Attentive := by
  refine ⟨?_, h.fetches⟩
  intro u hs
  refine h.deliveries u ?_
  rw [← hs]
  simp only [deliveryStage?, Rendezvous.report, List.getElem?_modify, Option.map_eq_map]
  refine (map_of_kept ?_ _).symm
  intro d
  split
  · split <;> rfl
  · rfl

theorem deliveryTurn {now : Nat} {d : Delivery α} (h : r.Attentive)
    (hturn : DeliveryTurn now r t d r') : r'.Attentive := by
  cases hturn with
  | place => exact .place _ t
  | moves hon =>
    apply h.setDelivery
    rintro rfl
    -- a delivery that begins to wait has just found the slot occupied
    cases hon with
    | park _ hslot => exact hslot
  | withdraw => exact (Attentive.clear _).setDelivery (by simp)

theorem fetchTurn {now : Nat} {g : Fetch} (h : r.Attentive) (hturn : FetchTurn now r f g r') :
    r'.Attentive := by
  cases hturn with
  | take => exact (Attentive.clear _).setFetch (by simp)
  | park _ hslot => exact h.setFetch fun _ => hslot
  | look | giveUp => exact h.setFetch (by simp)

/-- Every step under a clock keeps who waits attentive. -/
theorem of_moves {c : Clocked α} {s : ClockStep α} (h : c.rendezvous.Attentive)
    (hm : ClockMoves c s r') : r'.Attentive := by
  cases hm with
  | deliver item timeout => exact h.startDelivery item _
  | fetch timeout => exact h.startFetch _
  | deliveryTurn hturn => exact h.deliveryTurn hturn
  | fetchTurn hturn => exact h.fetchTurn hturn
  | drop => exact h.setDelivery (by simp)
  | withdraw => exact (Attentive.clear _).setDelivery (by simp)
  | dropFetch => exact h.setFetch (by simp)
  | finish _ t o => exact h.report t o
  | wait => exact h

theorem of_play {steps : List (ClockStep α)} {c : Clocked α}
    (h : Clocked.start.play steps = some c) : c.rendezvous.Attentive := by
  have hstart : (Clocked.start : Clocked α).rendezvous.Attentive :=
    ⟨by simp [Clocked.start, empty, deliveryStage?], by simp [Clocked.start, empty]⟩
  exact Runs.run_induction (motive := fun _ c => c.rendezvous.Attentive) hstart
    (fun _ _ _ _ hatt hstep => hatt.of_moves (clockMoves_of_step? hstep)) h

end Attentive

/-! ## §3 Deadlines -/

/-- The deadlines of all deliveries, in the order of their start. -/
def deliveryDeadlines (r : Rendezvous α) : List Nat :=
  r.deliveries.map Delivery.deadline

/-- The deadlines of all fetches, in the order of their start. -/
def fetchDeadlines (r : Rendezvous α) : List Nat :=
  r.fetches.map Fetch.deadline

/-- The deadline of a delivery that a step starts. -/
def Clocked.deliveryDeadline (c : Clocked α) : ClockStep α → List Nat
  | .deliver _ timeout => [c.now + timeout]
  | _ => []

/-- The deadline of a fetch that a step starts. -/
def Clocked.fetchDeadline (c : Clocked α) : ClockStep α → List Nat
  | .fetch timeout => [c.now + timeout]
  | _ => []

section Deadlines

variable (r : Rendezvous α) (t f : Nat)

@[simp] theorem deliveryDeadlines_startDelivery (item : α) (deadline : Nat) :
    (r.startDelivery item deadline).deliveryDeadlines = r.deliveryDeadlines ++ [deadline] := by
  simp [deliveryDeadlines, startDelivery]

@[simp] theorem deliveryDeadlines_setDelivery (stage : DeliverStage) :
    (r.setDelivery t stage).deliveryDeadlines = r.deliveryDeadlines :=
  map_modify_of_kept (by intro d; rfl) r.deliveries t

@[simp] theorem deliveryDeadlines_setPickup (p : Pickup) :
    (r.setPickup t p).deliveryDeadlines = r.deliveryDeadlines :=
  map_modify_of_kept (by intro d; rfl) r.deliveries t

@[simp] theorem deliveryDeadlines_clear : r.clear.deliveryDeadlines = r.deliveryDeadlines := by
  simp only [deliveryDeadlines, clear, wakeDeliveries, List.map_map]
  refine List.map_congr_left ?_
  intro d _
  obtain ⟨stage, heq⟩ := d.wake_eq
  simp [heq]

@[simp] theorem deliveryDeadlines_report (o : Outcome) :
    (r.report t o).deliveryDeadlines = r.deliveryDeadlines :=
  map_modify_of_kept (by intro d; split <;> rfl) r.deliveries t

@[simp] theorem fetchDeadlines_startFetch (deadline : Nat) :
    (r.startFetch deadline).fetchDeadlines = r.fetchDeadlines ++ [deadline] := by
  simp [fetchDeadlines, startFetch]

@[simp] theorem fetchDeadlines_setFetch (stage : FetchStage) :
    (r.setFetch f stage).fetchDeadlines = r.fetchDeadlines :=
  map_modify_of_kept (by intro g; rfl) r.fetches f

@[simp] theorem fetchDeadlines_wakeFetches : r.wakeFetches.fetchDeadlines = r.fetchDeadlines := by
  simp only [fetchDeadlines, wakeFetches, List.map_map]
  refine List.map_congr_left ?_
  intro g _
  simp only [Function.comp_apply, Fetch.wake]
  split <;> rfl

end Deadlines

section Set

variable {r r' : Rendezvous α} {now t f : Nat}

/-- A turn of a delivery leaves all deadlines as they are. -/
theorem DeliveryTurn.deadlines {d : Delivery α} (h : DeliveryTurn now r t d r') :
    r'.deliveryDeadlines = r.deliveryDeadlines ∧ r'.fetchDeadlines = r.fetchDeadlines := by
  cases h with
  | place => exact ⟨deliveryDeadlines_setDelivery r t .offered, fetchDeadlines_wakeFetches _⟩
  | moves => exact ⟨deliveryDeadlines_setDelivery r t _, rfl⟩
  | withdraw => exact ⟨by simp, rfl⟩

/-- A turn of a fetch leaves all deadlines as they are. -/
theorem FetchTurn.deadlines {g : Fetch} (h : FetchTurn now r f g r') :
    r'.deliveryDeadlines = r.deliveryDeadlines ∧ r'.fetchDeadlines = r.fetchDeadlines := by
  cases h with
  | @take t =>
    have hkept : ((r.setPickup t .taken).clear).deliveryDeadlines = r.deliveryDeadlines := by simp
    exact ⟨hkept, fetchDeadlines_setFetch _ f _⟩
  | park | look | giveUp => exact ⟨rfl, fetchDeadlines_setFetch r f _⟩

/-- A step sets the deadline of the call that it starts, and no other. -/
theorem ClockMoves.deadlines {c : Clocked α} {s : ClockStep α} (hm : ClockMoves c s r') :
    r'.deliveryDeadlines = c.rendezvous.deliveryDeadlines ++ c.deliveryDeadline s ∧
      r'.fetchDeadlines = c.rendezvous.fetchDeadlines ++ c.fetchDeadline s := by
  have kept (hdeliveries : r'.deliveryDeadlines = c.rendezvous.deliveryDeadlines)
      (hfetches : r'.fetchDeadlines = c.rendezvous.fetchDeadlines)
      (hs : c.deliveryDeadline s = []) (hs' : c.fetchDeadline s = []) :
      r'.deliveryDeadlines = c.rendezvous.deliveryDeadlines ++ c.deliveryDeadline s ∧
        r'.fetchDeadlines = c.rendezvous.fetchDeadlines ++ c.fetchDeadline s := by
    rw [hs, hs', List.append_nil, List.append_nil]
    exact ⟨hdeliveries, hfetches⟩
  cases hm with
  | deliver item => exact ⟨deliveryDeadlines_startDelivery _ item _, (List.append_nil _).symm⟩
  | fetch => exact ⟨(List.append_nil _).symm, fetchDeadlines_startFetch _ _⟩
  | deliveryTurn hturn => exact kept hturn.deadlines.1 hturn.deadlines.2 rfl rfl
  | fetchTurn hturn => exact kept hturn.deadlines.1 hturn.deadlines.2 rfl rfl
  | drop t => exact kept (deliveryDeadlines_setDelivery _ t _) rfl rfl rfl
  | withdraw t => exact kept (by simp) rfl rfl rfl
  | dropFetch f => exact kept rfl (fetchDeadlines_setFetch _ f _) rfl rfl
  | finish _ t o => exact kept (deliveryDeadlines_report _ t o) rfl rfl rfl
  | wait => exact kept rfl rfl rfl rfl

/-- Everybody's deadline is the one he set, as long as his timeout after the time of his call. -/
theorem deadlines_of_play {steps : List (ClockStep α)} {c : Clocked α}
    (h : Clocked.start.play steps = some c) :
    c.rendezvous.deliveryDeadlines =
        Runs.seen Clocked.step? Clocked.deliveryDeadline Clocked.start steps ∧
      c.rendezvous.fetchDeadlines =
        Runs.seen Clocked.step? Clocked.fetchDeadline Clocked.start steps := by
  -- the run is part of the motive, since what was seen is counted along it
  have hrun : Clocked.start.play steps = some c ∧
      c.rendezvous.deliveryDeadlines =
        Runs.seen Clocked.step? Clocked.deliveryDeadline Clocked.start steps ∧
      c.rendezvous.fetchDeadlines =
        Runs.seen Clocked.step? Clocked.fetchDeadline Clocked.start steps := by
    refine Runs.run_induction (motive := fun steps c => Clocked.start.play steps = some c ∧
      c.rendezvous.deliveryDeadlines =
        Runs.seen Clocked.step? Clocked.deliveryDeadline Clocked.start steps ∧
      c.rendezvous.fetchDeadlines =
        Runs.seen Clocked.step? Clocked.fetchDeadline Clocked.start steps) ⟨rfl, rfl, rfl⟩ ?_ h
    rintro steps c s c' ⟨hsteps, hdeliveries, hfetches⟩ hstep
    have hset := (clockMoves_of_step? hstep).deadlines
    refine ⟨Runs.run_concat.mpr ⟨c, hsteps, hstep⟩, ?_, ?_⟩
    · rw [Runs.seen_concat hsteps, ← hdeliveries]
      exact hset.1
    · rw [Runs.seen_concat hsteps, ← hfetches]
      exact hset.2
  exact hrun.2

end Set

/-! ## §4 Coming to Rest -/

theorem Clocked.unrest_of_turn {c c' : Clocked α} {s : ClockStep α} (hs : s.isTurn = true)
    (h : c.step? s = some c') : c'.rendezvous.unrest < c.rendezvous.unrest := by
  cases s with
  | deliveryTurn t =>
    obtain ⟨r', hr', rfl⟩ := Option.map_eq_some_iff.mp h
    exact unrest_deliveryTurn? hr'
  | fetchTurn f =>
    obtain ⟨r', hr', rfl⟩ := Option.map_eq_some_iff.mp h
    exact unrest_fetchTurn? hr'
  | deliver | fetch | cancelDelivery | cancelFetch | finish | wait => cases hs

/-- Calls that take turns, and do nothing else, take no more than there is unrest. -/
theorem Clocked.unrest_of_play {c c' : Clocked α} {turns : List (ClockStep α)}
    (hturns : ∀ s ∈ turns, s.isTurn = true) (h : c.play turns = some c') :
    turns.length + c'.rendezvous.unrest ≤ c.rendezvous.unrest := by
  -- on the turns, from the first one on
  induction turns generalizing c with
  | nil =>
    cases h
    simp
  | cons s turns ih =>
    rw [Clocked.play, List.foldlM_cons] at h
    obtain ⟨mid, hmid, hrest⟩ := Option.bind_eq_some_iff.mp h
    have hfirst := unrest_of_turn (hturns s (by simp)) hmid
    have hothers := ih (fun s' hs' => hturns s' (List.mem_cons_of_mem s hs')) hrest
    rw [List.length_cons]
    omega

/-! ## §5 At Rest -/

/-- A delivery that has not placed its item. -/
def DeliverStage.WaitsToPlace : DeliverStage → Prop
  | .looking | .parked _ => True
  | _ => False

/-- A delivery that has placed its item and does not know of a fetch that has taken it. -/
def DeliverStage.WaitsForPickup : DeliverStage → Prop
  | .offered | .expired => True
  | _ => False

/-- A delivery that waits for the slot or for a fetch, and cannot take a turn, waits unwoken and has
time left. -/
theorem waits_of_deliveryTurn? {now t : Nat} {r : Rendezvous α} {d : Delivery α}
    (h : r.deliveryTurn? now t = none) (hd : r.deliveries[t]? = some d) :
    (d.stage.WaitsToPlace → d.stage = .parked false ∧ now < d.deadline) ∧
      (d.stage.WaitsForPickup → now < d.deadline) := by
  simp only [deliveryTurn?, hd] at h
  -- at every other stage there is a turn to take: the slot is looked at, or what came of it noted
  cases hs : d.stage with
  | looking =>
    simp only [hs] at h
    split at h <;> cases h
  | parked woken =>
    cases woken with
    | true => simp [hs] at h
    | false =>
      have hnow : now < d.deadline := by simpa [hs] using h
      exact ⟨fun _ => ⟨rfl, hnow⟩, False.elim⟩
  | offered =>
    simp only [hs] at h
    split at h
    · cases h
    · cases h
    · exact ⟨False.elim, fun _ => by simpa using h⟩
  | expired =>
    simp only [hs] at h
    split at h <;> cases h
  | draining | returned | cancelled => exact ⟨False.elim, False.elim⟩

theorem waits_of_fetchTurn? {now f : Nat} {r : Rendezvous α} {g : Fetch}
    (h : r.fetchTurn? now f = none) (hg : r.fetches[f]? = some g) (hwaits : ¬g.stage.IsOver) :
    g.stage = .parked false ∧ now < g.deadline := by
  simp only [fetchTurn?, hg] at h
  cases hs : g.stage with
  | looking =>
    simp only [hs] at h
    split at h <;> cases h
  | parked woken =>
    cases woken with
    | true => simp [hs] at h
    | false => exact ⟨rfl, by simpa [hs] using h⟩
  | took | timedOut | cancelled => exact (hwaits (hs ▸ trivial)).elim

namespace Clocked

/-- Nobody waits for what is there, and nobody waits for too long. -/
structure Prompt (c : Clocked α) : Prop where
  /-- No item is in the slot while a fetch waits for one. -/
  unfetched : ∀ f stage, c.rendezvous.fetchStage? f = some stage → ¬stage.IsOver →
    c.rendezvous.isOccupied = false
  /-- The slot is not empty while a delivery waits for it. -/
  unplaced : ∀ t stage, c.rendezvous.deliveryStage? t = some stage → stage.WaitsToPlace →
    c.rendezvous.isOccupied = true
  fetchInTime : ∀ (f : Nat) (g : Fetch), c.rendezvous.fetches[f]? = some g → ¬g.stage.IsOver →
    c.now < g.deadline
  /-- One deadline is for both waits of a delivery. -/
  deliveryInTime : ∀ (t : Nat) (d : Delivery α), c.rendezvous.deliveries[t]? = some d →
    d.stage.WaitsToPlace ∨ d.stage.WaitsForPickup → c.now < d.deadline

theorem prompt_of_atRest {c : Clocked α} (hatt : c.rendezvous.Attentive) (hrest : c.AtRest) :
    c.Prompt := by
  obtain ⟨hdeliveries, hfetches⟩ := hrest
  -- who cannot take a turn waits unwoken, so the slot is still as it was found
  constructor
  · intro f stage hs hwaits
    obtain ⟨g, hg, rfl⟩ := Option.map_eq_some_iff.mp hs
    obtain ⟨hparked, -⟩ := waits_of_fetchTurn? (hfetches f) hg hwaits
    have hslot := hatt.fetches f (by rw [hs, hparked])
    simp [isOccupied, hslot]
  · intro t stage hs hwaits
    obtain ⟨d, hd, rfl⟩ := Option.map_eq_some_iff.mp hs
    obtain ⟨hparked, -⟩ := (waits_of_deliveryTurn? (hdeliveries t) hd).1 hwaits
    have hslot := hatt.deliveries t (by rw [hs, hparked])
    exact Option.isSome_iff_ne_none.mpr hslot
  · intro f g hg hwaits
    exact (waits_of_fetchTurn? (hfetches f) hg hwaits).2
  · rintro t d hd (hwaits | hwaits)
    · exact ((waits_of_deliveryTurn? (hdeliveries t) hd).1 hwaits).2
    · exact (waits_of_deliveryTurn? (hdeliveries t) hd).2 hwaits

/-- Only calls that have started can take turns. -/
theorem atRest_iff {c : Clocked α} : c.AtRest ↔
    (∀ t < c.rendezvous.deliveries.length, c.rendezvous.deliveryTurn? c.now t = none) ∧
      ∀ f < c.rendezvous.fetches.length, c.rendezvous.fetchTurn? c.now f = none := by
  constructor
  · rintro ⟨hdeliveries, hfetches⟩
    exact ⟨fun t _ => hdeliveries t, fun f _ => hfetches f⟩
  · rintro ⟨hdeliveries, hfetches⟩
    constructor
    · intro t
      by_cases ht : t < c.rendezvous.deliveries.length
      · exact hdeliveries t ht
      · simp [deliveryTurn?, List.getElem?_eq_none (Nat.le_of_not_lt ht)]
    · intro f
      by_cases hf : f < c.rendezvous.fetches.length
      · exact hfetches f hf
      · simp [fetchTurn?, List.getElem?_eq_none (Nat.le_of_not_lt hf)]

instance (c : Clocked α) : Decidable c.AtRest :=
  decidable_of_iff' _ atRest_iff

/-- **Nobody waits in vain.** However deliveries and fetches start, take turns, are given up and are
finished with while time passes: whenever nobody can take a turn, no fetch waits while an item is in
the slot, no delivery waits for the slot while it is empty, and the deadline of everybody who still
waits for the slot or for a fetch is yet to come. The one deadline of a call is its timeout after
the time of the call, through all its waits and lost races. And from any point on, calls that take
turns come to rest before time has to pass. -/
theorem nobody_waits_in_vain {steps : List (ClockStep α)} {c : Clocked α}
    (h : start.play steps = some c) :
    (c.AtRest → c.Prompt) ∧
    c.rendezvous.deliveries.map Delivery.deadline =
      Runs.seen step? deliveryDeadline start steps ∧
    c.rendezvous.fetches.map Fetch.deadline = Runs.seen step? fetchDeadline start steps ∧
    ∃ n, ∀ turns c', (∀ s ∈ turns, s.isTurn = true) → c.play turns = some c' →
      turns.length ≤ n := by
  obtain ⟨hdeliveries, hfetches⟩ := deadlines_of_play h
  refine ⟨prompt_of_atRest (.of_play h), hdeliveries, hfetches, c.rendezvous.unrest, ?_⟩
  intro turns c' hturns hplay
  exact Nat.le_of_add_right_le (unrest_of_play hturns hplay)

/-- Two deliveries wait for a slot, and both are woken when its item is taken. One of them is
faster; the other waits again, for what is left of its time, and has given up by the end. A fetch
that waited for an item has been given up before, and a delivery has come that waits. -/
def race : List (ClockStep Nat) :=
  [.fetch 20, .fetchTurn 0, .cancelFetch 0, .deliver 7 10, .deliveryTurn 0, .deliver 8 10,
    .deliveryTurn 1, .wait 1, .deliver 9 4, .deliveryTurn 2, .fetch 0, .fetchTurn 1,
    .deliveryTurn 0, .deliveryTurn 2, .deliveryTurn 1, .deliveryTurn 1, .deliveryTurn 2, .wait 4,
    .deliveryTurn 2, .finish 1 .completed, .deliveryTurn 0, .deliver 5 6, .deliveryTurn 3]

/-- Where everything stands at the end of it. -/
def raceEnd : Clocked Nat :=
  ⟨5, ⟨some 1,
    [⟨7, 10, .returned (.drained .completed), .taken, some .completed⟩,
      ⟨8, 10, .offered, .awaited, none⟩,
      ⟨9, 5, .returned .notFetched, .awaited, none⟩,
      ⟨5, 11, .parked false, .awaited, none⟩],
    [⟨20, .cancelled⟩, ⟨1, .took 0⟩]⟩⟩

/-- The slot is occupied, and the two deliveries that wait have time left. -/
theorem nobody_waits_in_vain_race :
    start.play race = some raceEnd ∧ raceEnd.AtRest ∧ raceEnd.Prompt ∧
      raceEnd.rendezvous.deliveries.map Delivery.deadline = [10, 10, 5, 11] ∧
      Runs.seen step? deliveryDeadline start race = [10, 10, 5, 11] ∧
      ∃ n, ∀ turns c', (∀ s ∈ turns, s.isTurn = true) → raceEnd.play turns = some c' →
        turns.length ≤ n := by
  have hplay : start.play race = some raceEnd := by decide
  have hrest : raceEnd.AtRest := by decide
  obtain ⟨hprompt, hdeliveries, -, hbounded⟩ := nobody_waits_in_vain hplay
  exact ⟨hplay, hrest, hprompt hrest, rfl, hdeliveries.symm, hbounded⟩

end Clocked

end BuildBroker.Rendezvous
