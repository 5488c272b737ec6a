import BuildBroker.Proofs.Rendezvous.Sound
import BuildBroker.Rendezvous.Custody

/-!
# Who Has What at a Rendezvous

Where each parcel is, and what has been said on its lines, can be read off the deliveries and the
fetches. One change at a time, custody follows the rendezvous: what is read off after the change is
what was read off before, changed in the same place.

A parcel is withdrawn by its ticket. As long as the counter of tickets has not run through, a ticket
tells its delivery from all others.

Main statements:
- `custody`: what is in each hand at a rendezvous.
- `ticket_inj`: tickets of different deliveries differ.
- `custody_withdraw`: what bears the ticket of a delivery is the parcel of that delivery.
- `custody_end`, `custody_end_of_offered`, `custody_end_of_parked`: how a delivery ends.
-/

namespace BuildBroker.Rendezvous

variable {α : Type}

/-! ## §1 What Is in Each Hand -/

namespace Delivery

/-- Whether the item was dropped before any fetch had it. -/
def isDropped (d : Delivery α) : Bool :=
  match d.pickup, d.stage with
  | .lost, _ | .awaited, .returned _ | .awaited, .cancelled => true
  | _, _ => false

/-- What has been said of the pickup of an item. -/
def pickedLine (d : Delivery α) : Line Unit :=
  if d.pickup = .taken then .said () else if d.isDropped then .cut else .silent

/-- What has been said of how an item was left. -/
def drainedLine (d : Delivery α) : Line Outcome :=
  match d.outcome with
  | some o => .said o
  | none => if d.isDropped then .cut else .silent

/-- What the delivery with a number has in hand. -/
def inHand (n : Nat) (d : Delivery α) : Sending α where
  deadline := d.deadline
  ticket := .ofNat n
  stage := d.stage
  parcel := match d.stage with
    | .looking | .parked _ => some ⟨.ofNat n, d.item, n⟩
    | _ => none
  armed := d.stage = .offered
  picked := d.pickedLine
  drained := d.drainedLine

end Delivery

/-- The parcel of the delivery with a number. -/
def parcel? (r : Rendezvous α) (n : Nat) : Option (Parcel α) :=
  (r.item? n).map fun x => ⟨.ofNat n, x, n⟩

/-- What a fetch has in hand. -/
def inHand (r : Rendezvous α) (g : Fetch) : Taking α :=
  match g.stage with
  | .took t => ⟨g.deadline, .took t, r.parcel? t, (r.outcome? t).isNone⟩
  | stage => ⟨g.deadline, stage, none, false⟩

/-- What is in each hand at a rendezvous. -/
def custody (r : Rendezvous α) : Custody α where
  slot := r.slot.bind r.parcel?
  next := .ofNat r.deliveries.length
  sendings := r.deliveries.mapIdx Delivery.inHand
  takings := r.fetches.map r.inHand

theorem custody_empty : (empty : Rendezvous α).custody = .empty := rfl

section Reading

variable {r : Rendezvous α} {n f : Nat} {d : Delivery α} {g : Fetch}

theorem slot_custody_of_empty (hslot : r.slot = none) : r.custody.slot = none := by
  simp only [custody, hslot, Option.bind_none]

theorem sendings_custody (r : Rendezvous α) (n : Nat) :
    r.custody.sendings[n]? = (r.deliveries[n]?).map (Delivery.inHand n) :=
  List.getElem?_mapIdx

theorem sending_of_delivery (hd : r.deliveries[n]? = some d) :
    r.custody.sendings[n]? = some (d.inHand n) := by
  rw [sendings_custody, hd, Option.map_some]

theorem takings_custody (r : Rendezvous α) (f : Nat) :
    r.custody.takings[f]? = (r.fetches[f]?).map r.inHand :=
  List.getElem?_map ..

theorem taking_of_fetch (hg : r.fetches[f]? = some g) :
    r.custody.takings[f]? = some (r.inHand g) := by
  rw [takings_custody, hg, Option.map_some]

end Reading

theorem parcel?_congr {r r' : Rendezvous α} (hitem : ∀ t, r'.item? t = r.item? t) :
    r'.parcel? = r.parcel? := by
  funext t
  simp only [parcel?, hitem]

/-- What is in the hands of fetches does not change as long as items and reports do not. -/
theorem inHand_congr {r r' : Rendezvous α} (hitem : ∀ t, r'.item? t = r.item? t)
    (houtcome : ∀ t, r'.outcome? t = r.outcome? t) : r'.inHand = r.inHand := by
  funext g
  simp only [inHand, parcel?_congr hitem, houtcome]

/-- A marked delivery has the same in hand. -/
theorem Delivery.inHand_wake (n : Nat) (d : Delivery α) :
    d.wake.inHand n = (d.inHand n).wake := by
  obtain ⟨item, deadline, stage, pickup, outcome⟩ := d
  cases stage with
  | parked woken => cases pickup <;> rfl
  | looking | offered | expired | draining | returned | cancelled => rfl

/-- A marked fetch has the same in hand. -/
theorem inHand_wake (r : Rendezvous α) (g : Fetch) : r.inHand g.wake = (r.inHand g).wake := by
  obtain ⟨deadline, stage⟩ := g
  cases stage <;> rfl

theorem Sending.wake_hangUp (d : Sending α) : d.hangUp.wake = d.wake.hangUp := by
  obtain ⟨deadline, ticket, stage, parcel, armed, picked, drained⟩ := d
  cases stage <;> rfl

theorem Sending.wake_pick (d : Sending α) : d.pick.wake = d.wake.pick := by
  obtain ⟨deadline, ticket, stage, parcel, armed, picked, drained⟩ := d
  cases stage <;> rfl

@[simp] theorem Delivery.stage_inHand (n : Nat) (d : Delivery α) :
    (d.inHand n).stage = d.stage := rfl

@[simp] theorem Delivery.ticket_inHand (n : Nat) (d : Delivery α) :
    (d.inHand n).ticket = .ofNat n := rfl

@[simp] theorem stage_inHand (r : Rendezvous α) (g : Fetch) : (r.inHand g).stage = g.stage := by
  obtain ⟨deadline, stage⟩ := g
  cases stage <;> rfl

@[simp] theorem deadline_inHand (r : Rendezvous α) (g : Fetch) :
    (r.inHand g).deadline = g.deadline := by
  obtain ⟨deadline, stage⟩ := g
  cases stage <;> rfl

/-! ### Lines -/

/-- A delivery that has placed its item is not over yet. -/
theorem DeliverStage.going_of_placed {s : DeliverStage} (hs : s = .offered ∨ s = .expired) :
    ¬s.IsOver := by
  rcases hs with rfl | rfl
  · exact id
  · exact id

namespace Delivery

variable {d : Delivery α}

/-- Nothing is dropped as long as a delivery goes on and its item is not lost. -/
theorem isDropped_of_going (hgoing : ¬d.stage.IsOver) (hp : d.pickup ≠ .lost) :
    d.isDropped = false := by
  obtain ⟨item, deadline, stage, pickup, outcome⟩ := d
  cases pickup with
  | lost => exact absurd rfl hp
  | taken => rfl
  | awaited =>
    cases stage with
    | returned | cancelled => exact absurd trivial hgoing
    | looking | parked | offered | expired | draining => rfl

theorem pickedLine_of_taken (hp : d.pickup = .taken) : d.pickedLine = .said () := by
  rw [pickedLine, if_pos hp]

theorem pickedLine_of_awaited (hgoing : ¬d.stage.IsOver) (hp : d.pickup = .awaited) :
    d.pickedLine = .silent := by
  have hkept : d.pickup ≠ .lost := by simp [hp]
  simp [pickedLine, hp, isDropped_of_going hgoing hkept]

theorem drainedLine_of_outcome {o : Outcome} (ho : d.outcome = some o) :
    d.drainedLine = .said o := by
  rw [drainedLine, ho]

theorem drainedLine_of_going (hgoing : ¬d.stage.IsOver) (hp : d.pickup ≠ .lost)
    (ho : d.outcome = none) : d.drainedLine = .silent := by
  simp [drainedLine, ho, isDropped_of_going hgoing hp]

/-- A delivery that goes on leaves its lines as they are. -/
theorem lines_of_going {stage : DeliverStage} (hs : ¬d.stage.IsOver) (hgoing : ¬stage.IsOver) :
    ({ d with stage } : Delivery α).pickedLine = d.pickedLine ∧
      ({ d with stage } : Delivery α).drainedLine = d.drainedLine := by
  have hsame : ({ d with stage } : Delivery α).isDropped = d.isDropped := by
    by_cases hp : d.pickup = .lost
    · simp only [isDropped, hp]
    · rw [isDropped_of_going hs hp]
      exact isDropped_of_going hgoing hp
  simp only [pickedLine, drainedLine, hsame, and_self]

/-- Taking an item is said to its delivery. -/
theorem inHand_taken (n : Nat) (hgoing : ¬d.stage.IsOver) (hp : d.pickup = .awaited)
    (ho : d.outcome = none) :
    ({ d with pickup := .taken } : Delivery α).inHand n = (d.inHand n).pick := by
  have hpicked := pickedLine_of_awaited hgoing hp
  have hdrained := drainedLine_of_going hgoing (by simp [hp]) ho
  have hsilent : ({ d with pickup := .taken } : Delivery α).drainedLine = .silent :=
    drainedLine_of_going hgoing (by simp) ho
  simp only [inHand, Sending.pick, hpicked, hdrained, hsilent, pickedLine_of_taken, Line.say]

/-- Losing an item cuts the lines to its delivery. -/
theorem inHand_lost (n : Nat) (hgoing : ¬d.stage.IsOver) (hp : d.pickup = .awaited)
    (ho : d.outcome = none) :
    ({ d with pickup := .lost } : Delivery α).inHand n = (d.inHand n).hangUp := by
  have hpicked := pickedLine_of_awaited hgoing hp
  have hdrained := drainedLine_of_going hgoing (by simp [hp]) ho
  have hcut : ({ d with pickup := .lost } : Delivery α).pickedLine = .cut ∧
      ({ d with pickup := .lost } : Delivery α).drainedLine = .cut := by
    simp [pickedLine, drainedLine, isDropped, ho]
  simp only [inHand, Sending.hangUp, hpicked, hdrained, hcut, Line.hangUp]

end Delivery

/-! ## §2 One Change at a Time -/

section Changes

variable {r : Rendezvous α} {t f : Nat} {d : Delivery α} {g : Fetch}

theorem modifySending_modifySending (c : Custody α) (n : Nat) (f g : Sending α → Sending α) :
    (c.modifySending n f).modifySending n g = c.modifySending n (g ∘ f) := by
  simp only [Custody.modifySending, List.modify_modify_eq]

/-- A change that does not see marks can be made before deliveries are marked. -/
theorem modifySending_wakeSendings (c : Custody α) (n : Nat) {change : Sending α → Sending α}
    (hblind : ∀ d, (change d).wake = change d.wake) :
    c.wakeSendings.modifySending n change = (c.modifySending n change).wakeSendings := by
  refine Custody.ext rfl rfl (List.ext_getElem? fun u => ?_) rfl
  simp only [Custody.wakeSendings, Custody.modifySending, List.getElem?_modify, List.getElem?_map,
    Option.map_eq_map, Option.map_map]
  congr 1
  funext d
  by_cases hnu : n = u <;> simp [hnu, hblind]

/-- What deliveries have in hand after one of them has changed. -/
theorem sendings_of_change {r' : Rendezvous α} {change : Delivery α → Delivery α}
    {change' : Sending α → Sending α} (hd : r.deliveries[t]? = some d)
    (hlookup : ∀ u, r'.deliveries[u]? =
      (r.deliveries[u]?).map fun d => if t = u then change d else d)
    (hhand : (change d).inHand t = change' (d.inHand t)) :
    r'.custody.sendings = (r.custody.modifySending t change').sendings := by
  refine List.ext_getElem? fun u => ?_
  rw [sendings_custody, hlookup]
  simp only [Custody.modifySending, List.getElem?_modify, sendings_custody, Option.map_eq_map,
    Option.map_map]
  by_cases htu : t = u
  · subst htu
    simp [hd, hhand]
  · simp only [if_neg htu, Function.comp_def]

/-- What is in each hand after one delivery has changed that keeps its item and what was reported. -/
theorem custody_modify {change : Delivery α → Delivery α} {change' : Sending α → Sending α}
    (hd : r.deliveries[t]? = some d) (hitem : ∀ d, (change d).item = d.item)
    (houtcome : ∀ d, (change d).outcome = d.outcome)
    (hhand : (change d).inHand t = change' (d.inHand t)) :
    ({ r with deliveries := r.deliveries.modify t change } : Rendezvous α).custody =
      r.custody.modifySending t change' := by
  set r' : Rendezvous α := { r with deliveries := r.deliveries.modify t change }
  have hlookup : ∀ u, r'.deliveries[u]? =
      (r.deliveries[u]?).map fun d => if t = u then change d else d := by
    intro u
    simp only [r', List.getElem?_modify, Option.map_eq_map]
  -- the item and the outcome of every delivery stay, so the slot and the hands see the same
  have hitem' : ∀ u, r'.item? u = r.item? u := by
    intro u
    simp only [item?, hlookup]
    exact map_of_kept (fun d => by split <;> simp [hitem]) _
  have houtcome' : ∀ u, r'.outcome? u = r.outcome? u := by
    intro u
    simp only [outcome?, hlookup]
    exact congrArg Option.join (map_of_kept (fun d => by split <;> simp [houtcome]) _)
  refine Custody.ext ?_ ?_ (sendings_of_change hd hlookup hhand) ?_
  · simp only [custody, Custody.modifySending, parcel?_congr hitem', r']
  · simp only [custody, Custody.modifySending, r', List.length_modify]
  · simp only [custody, Custody.modifySending, inHand_congr hitem' houtcome']
    rfl

theorem custody_clear (r : Rendezvous α) :
    r.clear.custody = { r.custody with slot := none }.wakeSendings := by
  refine Custody.ext rfl ?_ ?_ ?_
  · simp only [custody, clear, wakeDeliveries, Custody.wakeSendings, List.length_map]
  · refine List.ext_getElem? fun u => ?_
    simp only [sendings_custody, Custody.wakeSendings, List.getElem?_map, deliveries_clear,
      Option.map_map, Function.comp_def, Delivery.inHand_wake]
  · simp only [custody, Custody.wakeSendings, inHand_congr (item?_clear r) (outcome?_clear r)]
    rfl

theorem custody_wakeFetches (r : Rendezvous α) : r.wakeFetches.custody = r.custody.wakeTakings := by
  refine Custody.ext rfl rfl rfl ?_
  simp only [custody, wakeFetches, Custody.wakeTakings, List.map_map]
  exact List.map_congr_left fun g _ => r.inHand_wake g

/-- What is in each hand after one fetch has changed. -/
theorem custody_setFetch {stage : FetchStage} {change' : Taking α → Taking α}
    (hg : r.fetches[f]? = some g) (hhand : r.inHand { g with stage } = change' (r.inHand g)) :
    (r.setFetch f stage).custody = r.custody.modifyTaking f change' := by
  have hsame : (r.setFetch f stage).inHand = r.inHand := inHand_congr (fun _ => rfl) fun _ => rfl
  refine Custody.ext rfl rfl rfl (List.ext_getElem? fun u => ?_)
  rw [takings_custody, hsame]
  simp only [setFetch, Custody.modifyTaking, List.getElem?_modify, takings_custody,
    Option.map_eq_map, Option.map_map]
  by_cases hfu : f = u
  · subst hfu
    simpa [hg] using hhand
  · simp only [if_neg hfu, Function.comp_def]

/-- What is in each hand after one delivery has moved on. -/
theorem custody_setDelivery {stage : DeliverStage} {change' : Sending α → Sending α}
    (hd : r.deliveries[t]? = some d)
    (hhand : ({ d with stage } : Delivery α).inHand t = change' (d.inHand t)) :
    (r.setDelivery t stage).custody = r.custody.modifySending t change' :=
  custody_modify hd (fun _ => rfl) (fun _ => rfl) hhand

/-- What is in each hand after something has become of an item. -/
theorem custody_setPickup {p : Pickup} {change' : Sending α → Sending α}
    (hd : r.deliveries[t]? = some d)
    (hhand : ({ d with pickup := p } : Delivery α).inHand t = change' (d.inHand t)) :
    (r.setPickup t p).custody = r.custody.modifySending t change' :=
  custody_modify hd (fun _ => rfl) (fun _ => rfl) hhand

/-- What is in each hand after an item has left the slot for good. -/
theorem custody_clear_setPickup {p : Pickup} {change' : Sending α → Sending α}
    (hd : r.deliveries[t]? = some d) (hblind : ∀ d, (change' d).wake = change' d.wake)
    (hhand : ({ d with pickup := p } : Delivery α).inHand t = change' (d.inHand t)) :
    (r.setPickup t p).clear.custody =
      { r.custody with slot := none }.wakeSendings.modifySending t change' := by
  rw [custody_clear, custody_setPickup hd hhand, modifySending_wakeSendings _ _ hblind]
  rfl

end Changes

/-! ## §3 Tickets -/

/-- Tickets of different deliveries differ until the counter has run through. -/
theorem ticket_inj {m n : Nat} (hm : m < UInt64.size) (hn : n < UInt64.size)
    (heq : UInt64.ofNat m = UInt64.ofNat n) : m = n := by
  rw [← UInt64.toNat_ofNat_of_lt' hm, heq, UInt64.toNat_ofNat_of_lt' hn]

section Withdrawing

variable {r : Rendezvous α} {t : Nat} {d : Delivery α}

theorem parcel?_of_delivery (hd : r.deliveries[t]? = some d) :
    r.parcel? t = some ⟨.ofNat t, d.item, t⟩ := by
  simp only [parcel?, item?, hd, Option.map_some]

/-- The delivery whose item is in the slot. -/
theorem Sound.delivery_of_slot (h : r.Sound) (hslot : r.slot = some t) :
    ∃ d, r.deliveries[t]? = some d ∧ (d.stage = .offered ∨ d.stage = .expired) ∧
      d.pickup = .awaited ∧ d.outcome = none := by
  obtain ⟨d, hd, hp⟩ := Option.map_eq_some_iff.mp (h.placed t hslot)
  have hopen := h.outcome?_of_slot hslot
  rw [outcome?_of_delivery hd] at hopen
  exact ⟨d, hd, ((h.consistent t d hd).of_inSlot hslot).1, hp, hopen⟩

/-- The parcel of the delivery whose item is in the slot. -/
theorem Sound.parcel_of_slot (h : r.Sound) (hslot : r.slot = some t) :
    ∃ x, r.custody.slot = some ⟨.ofNat t, x, t⟩ ∧ r.parcel? t = some ⟨.ofNat t, x, t⟩ := by
  obtain ⟨d, hd, -⟩ := h.delivery_of_slot hslot
  have hparcel := parcel?_of_delivery hd
  refine ⟨d.item, ?_, hparcel⟩
  simp only [custody, hslot, Option.bind_some, hparcel]

/-- What bears the ticket of a delivery is the parcel of that delivery. -/
theorem custody_withdraw (h : r.Sound) (hfew : r.deliveries.length ≤ UInt64.size)
    (ht : t < r.deliveries.length) :
    r.custody.withdraw (.ofNat t) = ((r.withdraw t).custody, decide (r.slot = some t)) := by
  cases hslot : r.slot with
  | none =>
    simp [Custody.withdraw, Rendezvous.withdraw, slot_custody_of_empty hslot, hslot]
  | some u =>
    obtain ⟨d, hd, hstage, hp, ho⟩ := h.delivery_of_slot hslot
    have hu : u < r.deliveries.length := (List.getElem?_eq_some_iff.mp hd).1
    obtain ⟨x, hfull, -⟩ := h.parcel_of_slot hslot
    by_cases hut : u = t
    · subst hut
      have hhand := Delivery.inHand_lost u (DeliverStage.going_of_placed hstage) hp ho
      have hdrop := custody_clear_setPickup hd Sending.wake_hangUp hhand
      simp only [Custody.withdraw, hfull, if_true, Rendezvous.withdraw, hslot, hdrop,
        Custody.discard, decide_true]
    · -- another parcel is in the slot, and bears another ticket
      have hother : UInt64.ofNat u ≠ UInt64.ofNat t := fun heq =>
        hut (ticket_inj (by omega) (by omega) heq)
      simp [Custody.withdraw, Rendezvous.withdraw, hfull, hslot, hother, hut]

/-- The item of a delivery that has not placed it yet. -/
theorem Sound.delivery_of_unplaced (h : r.Sound) (hd : r.deliveries[t]? = some d)
    (hs : d.stage = .looking ∨ ∃ woken, d.stage = .parked woken) :
    r.slot ≠ some t ∧ d.pickup = .awaited ∧ d.outcome = none := by
  obtain ⟨hreported, hstage⟩ := h.consistent t d hd
  obtain ⟨hslot, hp⟩ : r.slot ≠ some t ∧ d.pickup = .awaited := by
    rcases hs with hs | ⟨woken, hs⟩
    · simpa [hs] using hstage
    · simpa [hs] using hstage
  refine ⟨hslot, hp, ?_⟩
  by_contra hsome
  have htaken := hreported hsome
  rw [hp] at htaken
  cases htaken

/-- A delivery that has placed its item finds it taken or lost once it has withdrawn it. -/
theorem Sound.delivery_withdraw (h : r.Sound) (hd : r.deliveries[t]? = some d)
    (hs : d.stage = .offered ∨ d.stage = .expired) :
    ∃ p, p ≠ .awaited ∧ (r.withdraw t).deliveries[t]? = some { d with pickup := p } := by
  by_cases hslot : r.slot = some t
  · refine ⟨.lost, by simp, ?_⟩
    rw [Rendezvous.withdraw, if_pos hslot, deliveries_clear, deliveries_setPickup, hd]
    rcases hs with hs | hs
    · simp [Delivery.wake, hs]
    · simp [Delivery.wake, hs]
  · refine ⟨.taken, by simp, ?_⟩
    have htaken : d.pickup = .taken := by
      have hstage := (h.consistent t d hd).2
      rcases hs with hs | hs
      · simpa [hs, hslot] using hstage
      · simpa [hs, hslot] using hstage
    rw [Rendezvous.withdraw, if_neg hslot, hd, ← htaken]

end Withdrawing

/-! ## §4 The End of a Delivery -/

section Ending

variable {r : Rendezvous α} {t : Nat} {d : Delivery α} {stage : DeliverStage}

/-- What is left of a delivery whose item has been taken or lost. -/
theorem Delivery.inHand_leave (n : Nat) (hp : d.pickup ≠ .awaited) (hover : stage.IsOver) :
    ({ d with stage } : Delivery α).inHand n = (d.inHand n).leave stage := by
  obtain ⟨item, deadline, stage', pickup, outcome⟩ := d
  cases pickup with
  | awaited => exact absurd rfl hp
  | taken | lost =>
    cases stage with
    | returned | cancelled => rfl
    | looking | parked | offered | expired | draining => exact hover.elim

/-- A delivery that has nothing in hand any more just ends. -/
theorem custody_end (hd : r.deliveries[t]? = some d)
    (hs : d.stage = .expired ∨ d.stage = .draining) (hp : d.pickup ≠ .awaited)
    (hover : stage.IsOver) :
    r.custody.endSending t stage = (r.setDelivery t stage).custody := by
  have hhand := sending_of_delivery hd
  have harmed : (d.inHand t).armed = false := by
    rcases hs with hs | hs <;> simp [Delivery.inHand, hs]
  have hparcel : (d.inHand t).parcel = none := by
    rcases hs with hs | hs <;> simp [Delivery.inHand, hs]
  rw [custody_setDelivery hd (Delivery.inHand_leave t hp hover)]
  simp [Custody.endSending, hhand, harmed, hparcel]

/-- A delivery that ends with its item in the slot withdraws it. -/
theorem custody_end_of_offered (h : r.Sound) (hfew : r.deliveries.length ≤ UInt64.size)
    (hd : r.deliveries[t]? = some d) (hs : d.stage = .offered) (hover : stage.IsOver) :
    r.custody.endSending t stage = ((r.withdraw t).setDelivery t stage).custody := by
  have hhand := sending_of_delivery hd
  have harmed : (d.inHand t).armed = true := by simp [Delivery.inHand, hs]
  have hparcel : (d.inHand t).parcel = none := by simp [Delivery.inHand, hs]
  have ht : t < r.deliveries.length := (List.getElem?_eq_some_iff.mp hd).1
  obtain ⟨p, hp, hd'⟩ := h.delivery_withdraw hd (.inl hs)
  -- by now its item is taken or lost, so that ending cuts no line
  rw [custody_setDelivery hd' (Delivery.inHand_leave t hp hover)]
  simp [Custody.endSending, hhand, harmed, hparcel, custody_withdraw h hfew ht]

/-- A delivery that ends while it waits for the slot drops its own parcel. -/
theorem custody_end_of_parked (h : r.Sound) {w : Bool} (hd : r.deliveries[t]? = some d)
    (hs : d.stage = .parked w) (hover : stage.IsOver) :
    r.custody.endSending t stage = (r.setDelivery t stage).custody := by
  have hhand := sending_of_delivery hd
  have hparcel : (d.inHand t).parcel = some ⟨.ofNat t, d.item, t⟩ := by simp [Delivery.inHand, hs]
  have harmed : (d.inHand t).armed = false := by simp [Delivery.inHand, hs]
  have hleft : ({ d with stage } : Delivery α).inHand t =
      (Sending.leave stage ∘ Sending.hangUp) (d.inHand t) := by
    obtain ⟨-, hp, ho⟩ := h.delivery_of_unplaced hd (.inr ⟨w, hs⟩)
    obtain ⟨item, deadline, stage', pickup, outcome⟩ := d
    subst hp ho hs
    cases stage with
    | returned | cancelled => rfl
    | looking | parked | offered | expired | draining => exact hover.elim
  rw [custody_setDelivery hd hleft]
  simp [Custody.endSending, hhand, hparcel, harmed, Custody.discard, modifySending_modifySending]

end Ending

end BuildBroker.Rendezvous
