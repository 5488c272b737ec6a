import BuildBroker.Rendezvous.Step

/-!
# What a Step at a Rendezvous Does

Every step that is possible at a rendezvous comes down to one of eight changes of the slot, of one
delivery and of one fetch. What is shown of all runs is shown of these eight.

Main statements:
- the tables of lookups: where a delivery and a fetch stand after each operation, marks included.
- `Delivery.Advances`: how a delivery moves on while the slot stays as it is.
- `Moves`, `moves_of_step?`: the eight changes, and that there are no others.
-/

namespace BuildBroker.Rendezvous

variable {α : Type}

/-! ## §1 Where Calls Stand -/

/-- What has become of the item of a delivery. -/
def pickup? (r : Rendezvous α) (t : Nat) : Option Pickup :=
  (r.deliveries[t]?).map Delivery.pickup

/-- What the fetch that took the item of a delivery has reported. -/
def outcome? (r : Rendezvous α) (t : Nat) : Option Outcome :=
  ((r.deliveries[t]?).map Delivery.outcome).join

theorem deliveryStage?_of_result? {r : Rendezvous α} {t : Nat} {res : DeliverResult}
    (hres : r.result? t = some res) : r.deliveryStage? t = some (.returned res) := by
  unfold result? at hres
  split at hres
  · rename_i hs
    cases hres
    exact hs
  · cases hres

/-- A change of deliveries keeps what it keeps of each. -/
theorem map_of_kept {β : Type} {view : Delivery α → β} {change : Delivery α → Delivery α}
    (hkept : ∀ d, view (change d) = view d) (o : Option (Delivery α)) :
    (o.map change).map view = o.map view := by
  rw [Option.map_map]
  exact congrArg (Option.map · o) (funext hkept)

section Lookups

variable (r : Rendezvous α) (t u f g : Nat)

/-! ### Moving a delivery on -/

theorem deliveries_setDelivery (s : DeliverStage) :
    (r.setDelivery t s).deliveries[u]? =
      (r.deliveries[u]?).map fun d => if t = u then { d with stage := s } else d := by
  simp only [setDelivery, List.getElem?_modify, Option.map_eq_map]

@[simp] theorem slot_setDelivery (s : DeliverStage) : (r.setDelivery t s).slot = r.slot := rfl

@[simp] theorem fetchStage?_setDelivery (s : DeliverStage) :
    (r.setDelivery t s).fetchStage? f = r.fetchStage? f := rfl

@[simp] theorem deliveryStage?_setDelivery (s : DeliverStage) :
    (r.setDelivery t s).deliveryStage? u =
      (r.deliveryStage? u).map fun s' => if t = u then s else s' := by
  simp only [deliveryStage?, deliveries_setDelivery, Option.map_map]
  congr 1
  funext d
  by_cases htu : t = u <;> simp [htu]

@[simp] theorem pickup?_setDelivery (s : DeliverStage) :
    (r.setDelivery t s).pickup? u = r.pickup? u := by
  simp only [pickup?, deliveries_setDelivery]
  exact map_of_kept (fun d => by split <;> rfl) _

@[simp] theorem outcome?_setDelivery (s : DeliverStage) :
    (r.setDelivery t s).outcome? u = r.outcome? u := by
  simp only [outcome?, deliveries_setDelivery]
  exact congrArg Option.join (map_of_kept (fun d => by split <;> rfl) _)

@[simp] theorem item?_setDelivery (s : DeliverStage) :
    (r.setDelivery t s).item? u = r.item? u := by
  simp only [item?, deliveries_setDelivery]
  exact map_of_kept (fun d => by split <;> rfl) _

/-! ### Noting a pickup -/

theorem deliveries_setPickup (p : Pickup) :
    (r.setPickup t p).deliveries[u]? =
      (r.deliveries[u]?).map fun d => if t = u then { d with pickup := p } else d := by
  simp only [setPickup, List.getElem?_modify, Option.map_eq_map]

@[simp] theorem slot_setPickup (p : Pickup) : (r.setPickup t p).slot = r.slot := rfl

@[simp] theorem fetchStage?_setPickup (p : Pickup) :
    (r.setPickup t p).fetchStage? f = r.fetchStage? f := rfl

@[simp] theorem deliveryStage?_setPickup (p : Pickup) :
    (r.setPickup t p).deliveryStage? u = r.deliveryStage? u := by
  simp only [deliveryStage?, deliveries_setPickup]
  exact map_of_kept (fun d => by split <;> rfl) _

@[simp] theorem pickup?_setPickup (p : Pickup) :
    (r.setPickup t p).pickup? u = (r.pickup? u).map fun p' => if t = u then p else p' := by
  simp only [pickup?, deliveries_setPickup, Option.map_map]
  congr 1
  funext d
  by_cases htu : t = u <;> simp [htu]

@[simp] theorem outcome?_setPickup (p : Pickup) :
    (r.setPickup t p).outcome? u = r.outcome? u := by
  simp only [outcome?, deliveries_setPickup]
  exact congrArg Option.join (map_of_kept (fun d => by split <;> rfl) _)

@[simp] theorem item?_setPickup (p : Pickup) : (r.setPickup t p).item? u = r.item? u := by
  simp only [item?, deliveries_setPickup]
  exact map_of_kept (fun d => by split <;> rfl) _

/-! ### Clearing the slot -/

theorem Delivery.wake_eq (d : Delivery α) : ∃ s, d.wake = { d with stage := s } := by
  unfold Delivery.wake
  split
  · exact ⟨.parked true, rfl⟩
  · exact ⟨d.stage, rfl⟩

theorem deliveries_clear : r.clear.deliveries[u]? = (r.deliveries[u]?).map Delivery.wake := by
  simp only [clear, wakeDeliveries, List.getElem?_map]

@[simp] theorem slot_clear : r.clear.slot = none := rfl

@[simp] theorem fetchStage?_clear : r.clear.fetchStage? f = r.fetchStage? f := rfl

@[simp] theorem pickup?_clear : r.clear.pickup? u = r.pickup? u := by
  simp only [pickup?, deliveries_clear]
  exact map_of_kept (fun d => by obtain ⟨s, hs⟩ := d.wake_eq; rw [hs]) _

@[simp] theorem outcome?_clear : r.clear.outcome? u = r.outcome? u := by
  simp only [outcome?, deliveries_clear]
  exact congrArg Option.join (map_of_kept (fun d => by obtain ⟨s, hs⟩ := d.wake_eq; rw [hs]) _)

@[simp] theorem item?_clear : r.clear.item? u = r.item? u := by
  simp only [item?, deliveries_clear]
  exact map_of_kept (fun d => by obtain ⟨s, hs⟩ := d.wake_eq; rw [hs]) _

/-! ### Moving a fetch on -/

@[simp] theorem deliveries_setFetch (s : FetchStage) :
    (r.setFetch f s).deliveries = r.deliveries := rfl

@[simp] theorem slot_setFetch (s : FetchStage) : (r.setFetch f s).slot = r.slot := rfl

@[simp] theorem pickup?_setFetch (s : FetchStage) :
    (r.setFetch f s).pickup? t = r.pickup? t := rfl

@[simp] theorem outcome?_setFetch (s : FetchStage) :
    (r.setFetch f s).outcome? t = r.outcome? t := rfl

@[simp] theorem fetchStage?_setFetch (s : FetchStage) :
    (r.setFetch f s).fetchStage? g = (r.fetchStage? g).map fun s' => if f = g then s else s' := by
  simp only [fetchStage?, setFetch, List.getElem?_modify, Option.map_eq_map, Option.map_map]
  congr 1
  funext g'
  by_cases hfg : f = g <;> simp [hfg]

/-! ### Starting calls and reporting -/

theorem deliveries_startDelivery (item : α) (deadline : Nat) :
    (r.startDelivery item deadline).deliveries[u]? =
      if u = r.deliveries.length then some ⟨item, deadline, .looking, .awaited, none⟩
      else r.deliveries[u]? := by
  simp only [startDelivery, List.getElem?_append, List.getElem?_singleton]
  split
  · rw [if_neg (by omega)]
  · rename_i hlen
    by_cases hu : u = r.deliveries.length
    · simp [hu]
    · rw [if_neg (by omega), if_neg hu, List.getElem?_eq_none (by omega)]

@[simp] theorem slot_startDelivery (item : α) (deadline : Nat) :
    (r.startDelivery item deadline).slot = r.slot := rfl

@[simp] theorem fetchStage?_startDelivery (item : α) (deadline : Nat) :
    (r.startDelivery item deadline).fetchStage? f = r.fetchStage? f := rfl

@[simp] theorem outcome?_startDelivery (item : α) (deadline : Nat) :
    (r.startDelivery item deadline).outcome? u = r.outcome? u := by
  simp only [outcome?, deliveries_startDelivery]
  split
  · rename_i hu
    rw [hu, List.getElem?_eq_none (Nat.le_refl _)]
    rfl
  · rfl

@[simp] theorem slot_report (o : Outcome) : (r.report t o).slot = r.slot := rfl

@[simp] theorem fetchStage?_report (o : Outcome) :
    (r.report t o).fetchStage? f = r.fetchStage? f := rfl

variable {r t}

/-- The first report on an item that was taken is noted. -/
theorem deliveries_report {d : Delivery α} (o : Outcome) (hd : r.deliveries[t]? = some d)
    (htaken : d.pickup = .taken) (hopen : d.outcome = none) :
    (r.report t o).deliveries[u]? =
      (r.deliveries[u]?).map fun d => if t = u then { d with outcome := some o } else d := by
  simp only [report, List.getElem?_modify, Option.map_eq_map]
  by_cases htu : t = u
  · subst htu
    simp [hd, htaken, hopen]
  · simp [htu]

theorem outcome?_report {d : Delivery α} (o : Outcome) (hd : r.deliveries[t]? = some d)
    (htaken : d.pickup = .taken) (hopen : d.outcome = none) :
    (r.report t o).outcome? u = if t = u then some o else r.outcome? u := by
  simp only [outcome?, deliveries_report u o hd htaken hopen]
  by_cases htu : t = u
  · subst htu
    simp [hd]
  · simp [htu]

end Lookups

/-- A fetch that waits for nothing any more. -/
def FetchStage.IsOver : FetchStage → Prop
  | .took _ | .timedOut | .cancelled => True
  | .looking | .parked _ => False

/-- A delivery that is over. -/
def DeliverStage.IsOver : DeliverStage → Prop
  | .returned _ | .cancelled => True
  | .looking | .parked _ | .offered | .expired | .draining => False

/-- A mark leaves a fetch that is over alone. -/
theorem fetchStage?_wakeFetches_of_over (r : Rendezvous α) (f : Nat) {s : FetchStage}
    (hs : s.IsOver) : r.wakeFetches.fetchStage? f = some s ↔ r.fetchStage? f = some s := by
  simp only [fetchStage?, wakeFetches, List.getElem?_map, Option.map_map]
  cases r.fetches[f]? with
  | none => simp
  | some g =>
    obtain ⟨deadline, stage⟩ := g
    -- a mark changes who is parked, and who is parked is not over
    cases stage with
    | parked woken =>
      constructor
      · rintro ⟨⟩; exact hs.elim
      · rintro ⟨⟩; exact hs.elim
    | looking | took | timedOut | cancelled => exact Iff.rfl

/-- What stands in a longer list of fetches, and is over, stood there before. -/
theorem fetchStage?_startFetch_of_over (r : Rendezvous α) (f deadline : Nat) {s : FetchStage}
    (hs : s.IsOver) :
    (r.startFetch deadline).fetchStage? f = some s ↔ r.fetchStage? f = some s := by
  simp only [fetchStage?, startFetch, List.getElem?_append]
  -- the new fetch stands at the end, and is not over
  split
  · exact Iff.rfl
  · rename_i hlen
    rw [List.getElem?_eq_none (Nat.le_of_not_lt hlen), List.getElem?_singleton]
    constructor
    · split
      · rintro ⟨⟩; exact hs.elim
      · exact id
    · rintro ⟨⟩

/-- A fetch that moves on without taking anything leaves what fetches have taken as it is. -/
theorem took_setFetch_of_await {r : Rendezvous α} {f : Nat} {g stage : FetchStage}
    (hg : r.fetchStage? f = some g) (hover : ¬g.IsOver) (hstay : ∀ t, stage ≠ .took t)
    (f' t : Nat) :
    (r.setFetch f stage).fetchStage? f' = some (.took t) ↔ r.fetchStage? f' = some (.took t) := by
  rw [fetchStage?_setFetch]
  -- the fetch that moves on held nothing before, and holds nothing now
  by_cases hff : f = f'
  · subst hff
    rw [hg]
    constructor
    · intro hnew
      simp only [if_true, Option.map_some, Option.some.injEq] at hnew
      exact absurd hnew (hstay t)
    · intro hold
      rw [Option.some.inj hold] at hover
      exact absurd trivial hover
  · simp [hff]

/-- What fetches have taken after one of them has taken the item in the slot. -/
theorem took_setFetch_of_take {r : Rendezvous α} {f : Nat} (t : Nat)
    (hf : r.fetchStage? f = some .looking) (g u : Nat) :
    (((r.setPickup t .taken).clear).setFetch f (.took t)).fetchStage? g = some (.took u) ↔
      g = f ∧ u = t ∨ r.fetchStage? g = some (.took u) := by
  by_cases hgf : g = f
  · subst hgf
    simp [hf, eq_comm]
  · simp [hgf, Ne.symm hgf]

/-! ## §2 The Eight Changes -/

/-- How the delivery with a ticket moves on while the slot stays as it is. -/
inductive Delivery.Advances (slot : Option Nat) (t : Nat) (d : Delivery α) : DeliverStage → Prop where
  | park : d.stage = .looking → slot ≠ none → Advances slot t d (.parked false)
  | mark {w w' : Bool} : d.stage = .parked w → Advances slot t d (.parked w')
  | look {w : Bool} : d.stage = .parked w → Advances slot t d .looking
  | giveUp {w : Bool} : d.stage = .parked w → Advances slot t d (.returned .notFetched)
  | pickedUp : d.stage = .offered → d.pickup = .taken → Advances slot t d .draining
  | lost : d.stage = .offered → d.pickup = .lost → Advances slot t d (.returned .notFetched)
  | expire : d.stage = .offered → d.pickup = .awaited → Advances slot t d .expired
  | late : d.stage = .expired → slot ≠ some t → Advances slot t d .draining
  | drained {o : Outcome} : d.stage = .draining → d.outcome = some o →
      Advances slot t d (.returned (.drained o))
  | forgotten : d.stage = .draining → d.outcome = none → d.pickup = .lost →
      Advances slot t d (.returned (.drained .interrupted))
  | dropParked {w : Bool} : d.stage = .parked w → Advances slot t d .cancelled
  | dropOffered : d.stage = .offered → slot ≠ some t → Advances slot t d .cancelled
  | dropDraining : d.stage = .draining → Advances slot t d .cancelled

/-- What a step may do to a rendezvous. -/
inductive Moves (r : Rendezvous α) : Step α → Rendezvous α → Prop where
  | deliver (item : α) (deadline : Nat) :
      Moves r (.deliver item deadline) (r.startDelivery item deadline)
  | fetch (deadline : Nat) : Moves r (.fetch deadline) (r.startFetch deadline)
  /-- A delivery moves on by itself. -/
  | advance {s : Step α} {t : Nat} {d : Delivery α} {stage : DeliverStage} :
      s.fetch? = none → r.deliveries[t]? = some d → d.Advances r.slot t stage →
      Moves r s (r.setDelivery t stage)
  /-- A delivery places its item. -/
  | place {now t : Nat} {d : Delivery α} :
      r.deliveries[t]? = some d → d.stage = .looking → r.slot = none →
      Moves r (.deliveryTurn now t) ({ r.setDelivery t .offered with slot := some t }).wakeFetches
  /-- A delivery ends and takes its item back. -/
  | withdraw {s : Step α} {t : Nat} {d : Delivery α} {stage : DeliverStage} :
      s.fetch? = none → r.deliveries[t]? = some d → r.slot = some t →
      (d.stage = .expired ∧ stage = .returned .notFetched ∨
        d.stage = .offered ∧ stage = .cancelled) →
      Moves r s (((r.setPickup t .lost).clear).setDelivery t stage)
  /-- A fetch that has not taken anything goes on waiting, or gives up. -/
  | await {s : Step α} {f : Nat} {g stage : FetchStage} :
      s.fetch? = some f → (∀ o, s ≠ .finish f o) → r.fetchStage? f = some g → ¬g.IsOver →
      (∀ t, stage ≠ .took t) → Moves r s (r.setFetch f stage)
  /-- A fetch takes the item that is in the slot. -/
  | take {now f t : Nat} :
      r.fetchStage? f = some .looking → r.slot = some t →
      Moves r (.fetchTurn now f) (((r.setPickup t .taken).clear).setFetch f (.took t))
  /-- Whoever holds what a fetch has taken is done with it. -/
  | finish {f t : Nat} {d : Delivery α} {o : Outcome} :
      r.fetchStage? f = some (.took t) → r.deliveries[t]? = some d → d.pickup = .taken →
      d.outcome = none → Moves r (.finish f o) (r.report t o)

section Inversion

variable {r r' : Rendezvous α}

private theorem moves_of_deliveryTurn? {now t : Nat} (h : r.deliveryTurn? now t = some r') :
    Moves r (.deliveryTurn now t) r' := by
  unfold deliveryTurn? at h
  cases hd : r.deliveries[t]? with
  | none => simp [hd] at h
  | some d =>
    have advances {stage : DeliverStage} (ha : d.Advances r.slot t stage) :
        Moves r (.deliveryTurn now t) (r.setDelivery t stage) := .advance rfl hd ha
    simp only [hd] at h
    -- the cases are the stages; where a stage has no turn, nothing was possible
    cases hs : d.stage with
    | looking =>
      simp only [hs] at h
      split at h
      -- the slot is free, so the item is placed; or it is not, and the delivery parks
      · rename_i hslot
        cases h
        exact .place hd hs hslot
      · rename_i hslot
        cases h
        exact advances (.park hs hslot)
    | parked woken =>
      cases woken with
      | true =>
        simp only [hs, Option.some.injEq] at h
        subst h
        exact advances (.look hs)
      -- nobody has woken it, so this turn is the one at its deadline
      | false =>
        simp only [hs] at h
        split at h
        · cases h; exact advances (.giveUp hs)
        · cases h
    | offered =>
      simp only [hs] at h
      -- its item is in the slot unless a fetch has taken it
      cases hp : d.pickup with
      | taken =>
        simp only [hp, Option.some.injEq] at h
        subst h
        exact advances (.pickedUp hs hp)
      | lost =>
        simp only [hp, Option.some.injEq] at h
        subst h
        exact advances (.lost hs hp)
      | awaited =>
        simp only [hp] at h
        split at h
        · cases h; exact advances (.expire hs hp)
        · cases h
    | expired =>
      simp only [hs] at h
      split at h
      · rename_i hslot
        rw [Rendezvous.withdraw, if_pos hslot] at h
        cases h
        exact .withdraw rfl hd hslot (.inl ⟨hs, rfl⟩)
      · -- the item was taken between the deadline and this turn
        rename_i hslot
        cases h
        exact advances (.late hs hslot)
    | draining =>
      simp only [hs] at h
      split at h
      · rename_i o _ ho
        cases h
        exact advances (.drained hs ho)
      · -- no holder of a lost item will ever report
        rename_i ho hp
        cases h
        exact advances (.forgotten hs ho hp)
      · cases h
    | returned | cancelled => simp [hs] at h

private theorem moves_of_fetchTurn? {now f : Nat} (h : r.fetchTurn? now f = some r') :
    Moves r (.fetchTurn now f) r' := by
  unfold fetchTurn? at h
  cases hg : r.fetches[f]? with
  | none => simp [hg] at h
  | some g =>
    have hstage : r.fetchStage? f = some g.stage := by simp only [fetchStage?, hg, Option.map_some]
    have awaits {stage : FetchStage} (hover : ¬g.stage.IsOver) (hstay : ∀ t, stage ≠ .took t) :
        Moves r (.fetchTurn now f) (r.setFetch f stage) :=
      .await rfl (by simp) hstage hover hstay
    simp only [hg] at h
    cases hs : g.stage with
    | looking =>
      simp only [hs] at h hstage
      -- who looks takes what is in the slot, and parks if nothing is
      cases hslot : r.slot with
      | some t =>
        simp only [hslot, Option.some.injEq] at h
        subst h
        exact .take hstage hslot
      | none =>
        simp only [hslot, Option.some.injEq] at h
        subst h
        exact awaits (by simp [hs, FetchStage.IsOver]) (by simp)
    | parked woken =>
      -- whether it was woken or its time is up, it has not taken anything
      have hover : ¬g.stage.IsOver := by simp [hs, FetchStage.IsOver]
      cases woken with
      | true =>
        simp only [hs, Option.some.injEq] at h
        subst h
        exact awaits hover (by simp)
      | false =>
        simp only [hs] at h
        split at h
        · cases h; exact awaits hover (by simp)
        · cases h
    | took | timedOut | cancelled => simp [hs] at h

private theorem moves_of_cancelDelivery {t : Nat} (hwait : r.deliveryWaits t = true) :
    Moves r (.cancelDelivery t) (r.cancelDelivery t) := by
  unfold deliveryWaits at hwait
  unfold cancelDelivery
  cases hd : r.deliveries[t]? with
  | none => simp [deliveryStage?, hd] at hwait
  | some d =>
    have hstage : r.deliveryStage? t = some d.stage := by
      simp only [deliveryStage?, hd, Option.map_some]
    cases hs : d.stage with
    | parked woken =>
      simp only [hstage, hs]
      exact .advance rfl hd (.dropParked hs)
    | draining =>
      simp only [hstage, hs]
      exact .advance rfl hd (.dropDraining hs)
    | offered =>
      simp only [hstage, hs]
      -- an item that is still in the slot is taken back
      by_cases hslot : r.slot = some t
      · rw [Rendezvous.withdraw, if_pos hslot]
        exact .withdraw rfl hd hslot (.inr ⟨hs, rfl⟩)
      · rw [Rendezvous.withdraw, if_neg hslot]
        exact .advance rfl hd (.dropOffered hs hslot)
    -- in these stages it does not wait, so it cannot be given up
    | looking | expired | returned | cancelled => simp [hstage, hs] at hwait

/-- Every possible step is one of the eight changes. -/
theorem moves_of_step? {s : Step α} (h : r.step? s = some r') : Moves r s r' := by
  cases s with
  | deliver item deadline => cases h; exact .deliver item deadline
  | fetch deadline => cases h; exact .fetch deadline
  | deliveryTurn now t => exact moves_of_deliveryTurn? h
  | fetchTurn now f => exact moves_of_fetchTurn? h
  | cancelDelivery t =>
    simp only [step?] at h
    split at h
    · rename_i hwait
      cases h
      exact moves_of_cancelDelivery hwait
    · cases h
  -- only a fetch that is parked can be given up
  | cancelFetch f =>
    simp only [step?, fetchWaits, cancelFetch] at h
    cases hs : r.fetchStage? f with
    | none => simp [hs] at h
    | some stage =>
      cases stage with
      | parked woken =>
        simp only [hs, if_true, Option.some.injEq] at h
        subst h
        exact .await rfl (by simp) hs (by simp [FetchStage.IsOver]) (by simp)
      | looking | took | timedOut | cancelled => simp [hs] at h
  | finish f o =>
    simp only [step?] at h
    split at h
    · rename_i t htook
      split at h
      -- the item is still held: it was taken, and nobody has reported on it
      · rename_i hheld
        cases h
        unfold isHeld at hheld
        cases hd : r.deliveries[t]? with
        | none => simp [hd] at hheld
        | some d =>
          simp only [hd, Bool.and_eq_true, decide_eq_true_eq, Option.isNone_iff_eq_none] at hheld
          exact .finish htook hd hheld.1 hheld.2
      · cases h
    · cases h
  | markDelivery t woken =>
    simp only [step?, deliveryStage?] at h
    cases hd : r.deliveries[t]? with
    | none => simp [hd] at h
    | some d =>
      simp only [hd, Option.map_some] at h
      split at h
      -- a mark on who is parked leaves the slot and all others as they are
      · rename_i w hs
        cases h
        exact .advance rfl hd (.mark (Option.some.inj hs))
      · cases h
  | markFetch f woken =>
    simp only [step?] at h
    split at h
    · rename_i w hs
      cases h
      exact .await rfl (by simp) hs (by simp [FetchStage.IsOver]) (by simp)
    · cases h

end Inversion

end BuildBroker.Rendezvous
