import BuildBroker.Proofs.Rendezvous.Moves
import BuildBroker.Proofs.Runs

/-!
# Where the Items of a Rendezvous Are

The slot, the deliveries and the fetches each know something of where an item is: in the slot, with
a fetch, or lost. They agree at all times.

Main statements:
- `Delivery.Consistent`: what a delivery may have noted at each stage, with its item in the slot or
  not.
- `Sound`: the invariant of a rendezvous.
- `Sound.of_moves`, `Sound.of_play`: each of the eight changes keeps it, and so does every run.
- `Sound.report`: reporting how an item was left is done by its holder, or does nothing.
- `Single.of_moves`: a delivery that is the only one never waits for the slot.
-/

namespace BuildBroker.Rendezvous

variable {α : Type}

/-! ## §1 One Delivery -/

namespace Delivery

/-- What a delivery may have noted at its stage, with its item in the slot or not. -/
def Consistent (d : Delivery α) (inSlot : Prop) : Prop :=
  (d.outcome ≠ none → d.pickup = .taken) ∧
    match d.stage with
    | .looking | .parked _ => ¬inSlot ∧ d.pickup = .awaited
    | .offered | .expired => inSlot ∧ d.pickup = .awaited ∨ ¬inSlot ∧ d.pickup = .taken
    | .draining => ¬inSlot ∧ d.pickup = .taken
    | .returned (.drained o) => ¬inSlot ∧ d.pickup = .taken ∧ d.outcome = some o
    | .returned .notFetched => ¬inSlot ∧ d.pickup ≠ .taken
    | .cancelled => ¬inSlot

namespace Consistent

variable {d : Delivery α} {inSlot : Prop}

theorem congr {inSlot' : Prop} (h : d.Consistent inSlot) (hiff : inSlot ↔ inSlot') :
    d.Consistent inSlot' :=
  propext hiff ▸ h

theorem wake (h : d.Consistent inSlot) : d.wake.Consistent inSlot := by
  unfold Delivery.wake
  split
  · rename_i woken hs
    refine ⟨h.1, ?_⟩
    have hparked := h.2
    simp only [hs] at hparked
    exact hparked
  · exact h

/-- An item in the slot is waited for at one of two stages. -/
theorem of_inSlot (h : d.Consistent inSlot) (hin : inSlot) :
    (d.stage = .offered ∨ d.stage = .expired) ∧ d.pickup = .awaited := by
  have hstage := h.2
  cases hs : d.stage with
  | offered | expired =>
    simp only [hs, hin, true_and, not_true_eq_false, false_and, or_false] at hstage
    simp [hstage]
  | returned res =>
    cases res <;> simp [hs, hin] at hstage
  | looking | parked | draining | cancelled => simp [hs, hin] at hstage

/-- No item of a delivery that is over is in the slot. -/
theorem not_inSlot_of_over (h : d.Consistent inSlot) (hover : d.stage.IsOver) : ¬inSlot := by
  intro hin
  rcases (h.of_inSlot hin).1 with hs | hs
  · rw [hs] at hover; exact hover
  · rw [hs] at hover; exact hover

/-- A delivery that moves on while the slot stays as it is goes from its stage to one that fits. -/
theorem advance {slot : Option Nat} {t : Nat} {stage : DeliverStage}
    (h : d.Consistent (slot = some t)) (ha : d.Advances slot t stage) :
    Consistent { d with stage := stage } (slot = some t) := by
  obtain ⟨hreported, hstage⟩ := h
  refine ⟨hreported, ?_⟩
  -- neither the notes nor the slot change, so only the demands of the new stage are to be met
  cases ha with
  | park hs _ | mark hs | look hs =>
    simp only [hs] at hstage
    exact hstage
  | giveUp hs =>
    simp only [hs] at hstage
    exact ⟨hstage.1, by simp [hstage.2]⟩
  | pickedUp hs hp =>
    simp only [hs, hp, reduceCtorEq, and_false, and_true, false_or] at hstage
    exact ⟨hstage, hp⟩
  | lost hs hp => simp [hs, hp] at hstage
  | expire hs hp =>
    simp only [hs] at hstage
    exact hstage
  | late hs hslot =>
    simp only [hs, hslot, false_and, not_false_eq_true, true_and, false_or] at hstage
    exact ⟨hslot, hstage⟩
  | drained hs ho =>
    simp only [hs] at hstage
    exact ⟨hstage.1, hstage.2, ho⟩
  | forgotten hs _ hp => simp [hs, hp] at hstage
  | dropParked hs | dropDraining hs =>
    simp only [hs] at hstage
    exact hstage.1
  | dropOffered _ hslot => exact hslot

end Consistent

end Delivery

/-! ## §2 The Invariant -/

/-- The slot, the deliveries and the fetches agree on where each item is. -/
structure Sound (r : Rendezvous α) : Prop where
  consistent : ∀ t (d : Delivery α), r.deliveries[t]? = some d → d.Consistent (r.slot = some t)
  /-- What is in the slot is waited for. -/
  placed : ∀ t, r.slot = some t → r.pickup? t = some .awaited
  /-- An item is taken if a fetch has it. -/
  taken : ∀ t, r.pickup? t = some .taken ↔ ∃ f, r.fetchStage? f = some (.took t)
  once : ∀ f g t, r.fetchStage? f = some (.took t) → r.fetchStage? g = some (.took t) → f = g

theorem sound_empty : (empty : Rendezvous α).Sound :=
  ⟨by simp [empty], by simp [empty], by simp [empty, pickup?, fetchStage?],
    by simp [empty, fetchStage?]⟩

theorem pickup?_of_delivery {r : Rendezvous α} {t : Nat} {d : Delivery α}
    (hd : r.deliveries[t]? = some d) : r.pickup? t = some d.pickup := by
  simp only [pickup?, hd, Option.map_some]

theorem outcome?_of_delivery {r : Rendezvous α} {t : Nat} {d : Delivery α}
    (hd : r.deliveries[t]? = some d) : r.outcome? t = d.outcome := by
  simp only [outcome?, hd, Option.map_some, Option.join_some]

theorem delivery_of_stage {r : Rendezvous α} {t : Nat} {s : DeliverStage}
    (h : r.deliveryStage? t = some s) : ∃ d, r.deliveries[t]? = some d ∧ d.stage = s :=
  Option.map_eq_some_iff.mp h

namespace Sound

variable {r : Rendezvous α}

/-- Of the item in the slot nothing has been reported. -/
theorem outcome?_of_slot (h : r.Sound) {t : Nat} (hslot : r.slot = some t) :
    r.outcome? t = none := by
  obtain ⟨d, hd, hp⟩ := Option.map_eq_some_iff.mp (h.placed t hslot)
  rw [outcome?_of_delivery hd]
  by_contra hreported
  have htaken := (h.consistent t d hd).1 hreported
  rw [hp] at htaken
  cases htaken

/-- No item of a delivery that is over is in the slot. -/
theorem slot_ne_of_over (h : r.Sound) {t : Nat} {s : DeliverStage}
    (hs : r.deliveryStage? t = some s) (hover : s.IsOver) : r.slot ≠ some t := by
  obtain ⟨d, hd, rfl⟩ := delivery_of_stage hs
  exact (h.consistent t d hd).not_inSlot_of_over hover

/-- A change that lets no fetch take anything has to be looked at only where the deliveries are. -/
private theorem of_same_pickups {r' : Rendezvous α} (h : r.Sound)
    (hconsistent : ∀ t (d : Delivery α), r'.deliveries[t]? = some d →
      d.Consistent (r'.slot = some t))
    (hplaced : ∀ t, r'.slot = some t → r'.pickup? t = some .awaited)
    (htaken : ∀ t, r'.pickup? t = some .taken ↔ r.pickup? t = some .taken)
    (htook : ∀ f t, r'.fetchStage? f = some (.took t) ↔ r.fetchStage? f = some (.took t)) :
    r'.Sound := by
  refine ⟨hconsistent, hplaced, ?_, ?_⟩
  · intro t
    rw [htaken, h.taken]
    simp only [htook]
  · intro f g t hf hg
    exact h.once f g t ((htook f t).mp hf) ((htook g t).mp hg)

/-- A change of the deliveries one by one has to be looked at where one of them moves on, and where
the others are. -/
private theorem consistent_of_change {r' : Rendezvous α} {change : Nat → Delivery α → Delivery α}
    (t : Nat) (hlookup : ∀ u, r'.deliveries[u]? = (r.deliveries[u]?).map (change u))
    (hself : ∀ d, r.deliveries[t]? = some d → (change t d).Consistent (r'.slot = some t))
    (hothers : ∀ u d, t ≠ u → r.deliveries[u]? = some d →
      (change u d).Consistent (r'.slot = some u)) :
    ∀ u (d : Delivery α), r'.deliveries[u]? = some d → d.Consistent (r'.slot = some u) := by
  intro u d hd
  rw [hlookup] at hd
  obtain ⟨d₀, hd₀, rfl⟩ := Option.map_eq_some_iff.mp hd
  by_cases htu : t = u
  · subst htu
    exact hself d₀ hd₀
  · exact hothers u d₀ htu hd₀

theorem startDelivery (h : r.Sound) (item : α) (deadline : Nat) :
    (r.startDelivery item deadline).Sound := by
  have hnew : r.pickup? r.deliveries.length = none := by simp [pickup?]
  have hpickup : ∀ t, (r.startDelivery item deadline).pickup? t =
      if t = r.deliveries.length then some .awaited else r.pickup? t := by
    intro t
    simp only [pickup?, deliveries_startDelivery]
    split <;> rfl
  -- no ticket is in the slot before its delivery has started
  have hfree : r.slot ≠ some r.deliveries.length := by
    intro hslot
    have hp := h.placed _ hslot
    rw [hnew] at hp
    cases hp
  refine h.of_same_pickups ?_ ?_ ?_ (fun _ _ => Iff.rfl)
  · intro t d hd
    rw [deliveries_startDelivery] at hd
    split at hd
    · rename_i ht
      cases hd
      exact ⟨fun hne => absurd rfl hne, ht ▸ hfree, rfl⟩
    · exact h.consistent t d hd
  · intro t hslot
    rw [hpickup]
    split
    · rfl
    · exact h.placed t hslot
  · intro t
    rw [hpickup]
    split
    · rename_i ht
      rw [ht, hnew]
      simp
    · exact Iff.rfl

theorem startFetch (h : r.Sound) (deadline : Nat) : (r.startFetch deadline).Sound :=
  h.of_same_pickups h.consistent h.placed (fun _ => Iff.rfl)
    (fun f _ => fetchStage?_startFetch_of_over r f deadline trivial)

theorem advance (h : r.Sound) {t : Nat} {d : Delivery α} {stage : DeliverStage}
    (hd : r.deliveries[t]? = some d) (ha : d.Advances r.slot t stage) :
    (r.setDelivery t stage).Sound := by
  have hconsistent := consistent_of_change t
    (fun u => deliveries_setDelivery r t u stage) ?_ ?_
  · refine h.of_same_pickups hconsistent ?_ ?_ (fun _ _ => Iff.rfl)
    · intro u hslot
      rw [pickup?_setDelivery]
      exact h.placed u hslot
    · intro u
      rw [pickup?_setDelivery]
  · intro e he
    obtain rfl : e = d := Option.some.inj (he.symm.trans hd)
    simp only [if_true]
    exact (h.consistent t e he).advance ha
  · intro u e htu he
    simp only [if_neg htu]
    exact h.consistent u e he

/-- Before an item is placed, no item is in the slot; it is then the only one. -/
theorem place (h : r.Sound) {t : Nat} {d : Delivery α} (hd : r.deliveries[t]? = some d)
    (hs : d.stage = .looking) (hslot : r.slot = none) :
    ({ r.setDelivery t .offered with slot := some t }).wakeFetches.Sound := by
  have hawaited : d.pickup = .awaited := by
    have hstage := (h.consistent t d hd).2
    simp only [hs] at hstage
    exact hstage.2
  have hpickup : ∀ u,
      ({ r.setDelivery t .offered with slot := some t }).wakeFetches.pickup? u = r.pickup? u :=
    fun u => pickup?_setDelivery r t u .offered
  refine h.of_same_pickups ?_ ?_ ?_ ?_
  -- the delivery that places its item is offered; the slot was no one else's, and still is not
  · refine consistent_of_change t (fun u => deliveries_setDelivery r t u .offered) ?_ ?_
    · intro e he
      obtain rfl : e = d := Option.some.inj (he.symm.trans hd)
      simp only [if_true]
      exact ⟨(h.consistent t e he).1, .inl ⟨rfl, hawaited⟩⟩
    · intro u e htu he
      simp only [if_neg htu]
      refine (h.consistent u e he).congr ?_
      rw [hslot]
      have hfree : (none = some u) ↔ (some t = some u) := by simp [htu]
      exact hfree
  -- the item in the slot is one that is still awaited
  · intro u hu
    obtain rfl : t = u := Option.some.inj hu
    rw [hpickup, pickup?_of_delivery hd, hawaited]
  · intro u
    rw [hpickup]
  · intro f u
    exact fetchStage?_wakeFetches_of_over _ f trivial

/-- What a delivery that keeps its notes becomes when the slot is cleared. -/
private theorem consistent_of_cleared (h : r.Sound) {t u : Nat} {e : Delivery α}
    (hslot : r.slot = some t) (hne : t ≠ u) (he : r.deliveries[u]? = some e) :
    e.wake.Consistent (none = some u) := by
  refine (h.consistent u e he).wake.congr ?_
  rw [hslot]
  simp [hne]

theorem withdraw (h : r.Sound) {t : Nat} {stage : DeliverStage} (hslot : r.slot = some t)
    (hstage : stage = .returned .notFetched ∨ stage = .cancelled) :
    (((r.setPickup t .lost).clear).setDelivery t stage).Sound := by
  have hawaited := h.placed t hslot
  -- one delivery loses its item, and clearing the slot wakes them all
  have hlookup : ∀ u, (((r.setPickup t .lost).clear).setDelivery t stage).deliveries[u]? =
      (r.deliveries[u]?).map fun d => if t = u then
        { ({ d with pickup := .lost } : Delivery α).wake with stage := stage } else d.wake := by
    intro u
    simp only [deliveries_setDelivery, deliveries_clear, deliveries_setPickup, Option.map_map]
    congr 1
    funext d
    by_cases htu : t = u <;> simp [htu]
  refine h.of_same_pickups (consistent_of_change t hlookup ?_ ?_) ?_ ?_ ?_
  · intro d hd
    obtain ⟨s, hs⟩ := Delivery.wake_eq { d with pickup := .lost }
    -- what lies in the slot has no outcome yet
    have hopen : d.outcome = none := by
      rw [← outcome?_of_delivery hd]
      exact h.outcome?_of_slot hslot
    simp only [if_true, hs]
    refine ⟨fun hne => absurd hopen hne, ?_⟩
    rcases hstage with rfl | rfl
    · simp
    · simp
  · intro u d htu hd
    simp only [if_neg htu]
    exact h.consistent_of_cleared hslot htu hd
  -- nothing lies in the slot now
  · intro u hu
    simp at hu
  · intro u
    simp only [pickup?_setDelivery, pickup?_clear, pickup?_setPickup]
    -- no item is taken now that was not taken before: this one was awaited, and is lost
    by_cases htu : t = u
    · subst htu
      simp [hawaited]
    · simp [htu]
  · intro f u
    simp

theorem await (h : r.Sound) {f : Nat} {g stage : FetchStage} (hg : r.fetchStage? f = some g)
    (hover : ¬g.IsOver) (hstay : ∀ t, stage ≠ .took t) : (r.setFetch f stage).Sound :=
  h.of_same_pickups h.consistent h.placed (fun _ => Iff.rfl)
    (took_setFetch_of_await hg hover hstay)

/-- Taking an item out of the slot makes the fetch that takes it its only holder. -/
theorem take (h : r.Sound) {f t : Nat} (hf : r.fetchStage? f = some .looking)
    (hslot : r.slot = some t) :
    (((r.setPickup t .taken).clear).setFetch f (.took t)).Sound := by
  have hawaited := h.placed t hslot
  -- nobody has taken an item that is still waited for
  have huntaken : ∀ g, r.fetchStage? g ≠ some (.took t) := by
    intro g hg
    have htaken := (h.taken t).mpr ⟨g, hg⟩
    rw [hawaited] at htaken
    cases htaken
  have htook := took_setFetch_of_take t hf
  have hlookup : ∀ u, (((r.setPickup t .taken).clear).setFetch f (.took t)).deliveries[u]? =
      (r.deliveries[u]?).map fun d =>
        if t = u then ({ d with pickup := .taken } : Delivery α).wake else d.wake := by
    intro u
    simp only [deliveries_setFetch, deliveries_clear, deliveries_setPickup, Option.map_map]
    congr 1
    funext d
    by_cases htu : t = u <;> simp [htu]
  refine ⟨consistent_of_change t hlookup ?_ ?_, ?_, ?_, ?_⟩
  · intro d hd
    have hold := h.consistent t d hd
    rw [hslot] at hold
    obtain ⟨hstage, _⟩ := hold.of_inSlot rfl
    rcases hstage with hs | hs
    · simp [Delivery.wake, hs, Delivery.Consistent]
    · simp [Delivery.wake, hs, Delivery.Consistent]
  · intro u d htu hd
    simp only [if_neg htu]
    exact h.consistent_of_cleared hslot htu hd
  · intro u hu
    simp at hu
  · intro u
    simp only [htook, pickup?_setFetch, pickup?_clear, pickup?_setPickup]
    by_cases htu : t = u
    · subst htu
      simp [hawaited]
    · have hut : u ≠ t := Ne.symm htu
      simp only [if_neg htu, Option.map_id', hut, and_false, false_or]
      exact h.taken u
  · intro g g' u hg hg'
    rcases (htook g u).mp hg with ⟨rfl, rfl⟩ | hold
    · rcases (htook g' u).mp hg' with ⟨rfl, _⟩ | hold'
      · rfl
      · exact absurd hold' (huntaken g')
    · rcases (htook g' u).mp hg' with ⟨rfl, rfl⟩ | hold'
      · exact absurd hold (huntaken g)
      · exact h.once g g' u hold hold'

theorem finish (h : r.Sound) {t : Nat} {d : Delivery α} (o : Outcome)
    (hd : r.deliveries[t]? = some d) (htaken : d.pickup = .taken) (hopen : d.outcome = none) :
    (r.report t o).Sound := by
  have hlookup := fun u => deliveries_report u o hd htaken hopen
  have hpickup : ∀ u, (r.report t o).pickup? u = r.pickup? u := by
    intro u
    simp only [pickup?, hlookup]
    exact map_of_kept (fun d => by split <;> rfl) _
  refine h.of_same_pickups (consistent_of_change t hlookup ?_ ?_) ?_ ?_ (fun _ _ => Iff.rfl)
  · intro e he
    obtain rfl : e = d := Option.some.inj (he.symm.trans hd)
    have hstage := (h.consistent t e he).2
    simp only [if_true]
    refine ⟨fun _ => htaken, ?_⟩
    -- a delivery that has ended as drained has been reported on before
    cases hs : e.stage with
    | returned res =>
      cases res with
      | drained o' => simp [hs, hopen] at hstage
      | notFetched =>
        simp only [hs] at hstage ⊢
        exact hstage
    | looking | parked | offered | expired | draining | cancelled =>
      simp only [hs] at hstage ⊢
      exact hstage
  · intro u e htu he
    simp only [if_neg htu]
    exact h.consistent u e he
  · intro u hslot
    rw [hpickup]
    exact h.placed u hslot
  · intro u
    rw [hpickup]

/-- Each of the eight changes keeps the invariant. -/
theorem of_moves (h : r.Sound) {s : Step α} {r' : Rendezvous α} (hm : Moves r s r') :
    r'.Sound := by
  cases hm with
  | deliver item deadline => exact h.startDelivery item deadline
  | fetch deadline => exact h.startFetch deadline
  | advance _ hd ha => exact h.advance hd ha
  | place hd hs hslot => exact h.place hd hs hslot
  | withdraw _ _ hslot hend => exact h.withdraw hslot (hend.imp And.right And.right)
  | await _ _ hg hover hstay => exact h.await hg hover hstay
  | take hf hslot => exact h.take hf hslot
  | finish _ hd htaken hopen => exact h.finish _ hd htaken hopen

theorem of_play (h : r.Sound) {steps : List (Step α)} {r' : Rendezvous α}
    (hplay : r.play steps = some r') : r'.Sound :=
  Runs.run_induction (motive := fun _ mid => mid.Sound) h
    (fun _ _ _ _ hmid hstep => hmid.of_moves (moves_of_step? hstep)) hplay

/-- A report is made on behalf of the fetch that has the item, or it does nothing. -/
theorem report (h : r.Sound) (t : Nat) (o : Outcome) :
    r.report t o = r ∨ ∃ f, r.step? (.finish f o) = some (r.report t o) := by
  cases hd : r.deliveries[t]? with
  | none =>
    refine .inl ?_
    have hlen : r.deliveries.length ≤ t := List.getElem?_eq_none_iff.mp hd
    simp only [Rendezvous.report]
    rw [List.modify_eq_self hlen]
  | some d =>
    -- either the item is still held, by the fetch that took it, or nothing is reported
    by_cases hopen : d.pickup = .taken ∧ d.outcome = none
    · obtain ⟨f, hf⟩ := (h.taken t).mp (by rw [pickup?_of_delivery hd, hopen.1])
      have hheld : r.isHeld t = true := by simp [isHeld, hd, hopen]
      exact .inr ⟨f, by simp only [step?, hf, hheld, if_true]⟩
    · refine .inl ?_
      have hsame : r.deliveries.modify t (fun d =>
          if d.pickup = .taken ∧ d.outcome = none then { d with outcome := some o } else d) =
            r.deliveries := by
        refine List.ext_getElem? fun u => ?_
        rw [List.getElem?_modify]
        by_cases htu : t = u
        · subst htu
          simp [hd, hopen]
        · simp [htu]
      simp only [Rendezvous.report, hsame]

end Sound

/-! ## §3 A Single Delivery -/

/-- There is one delivery at most, and it does not wait for the slot. -/
structure Single (r : Rendezvous α) : Prop where
  sound : r.Sound
  atMostOne : r.deliveries.length ≤ 1
  unparked : ∀ t w, r.deliveryStage? t ≠ some (.parked w)

namespace Single

variable {r : Rendezvous α}

theorem empty : (Rendezvous.empty : Rendezvous α).Single :=
  ⟨sound_empty, Nat.zero_le 1, by simp [Rendezvous.empty, deliveryStage?]⟩

theorem startDelivery (h : r.Single) (hnone : r.deliveries = []) (item : α) (deadline : Nat) :
    (r.startDelivery item deadline).Single := by
  refine ⟨h.sound.startDelivery item deadline, ?_, ?_⟩
  · simp [Rendezvous.startDelivery, hnone]
  · intro t w
    simp only [deliveryStage?, deliveries_startDelivery, hnone]
    split <;> simp

/-- There is one ticket at most. -/
theorem ticket_unique (h : r.Single) {t u : Nat} {p q : Pickup} (ht : r.pickup? t = some p)
    (hu : r.pickup? u = some q) : t = u := by
  obtain ⟨d, hd, -⟩ := Option.map_eq_some_iff.mp ht
  obtain ⟨e, he, -⟩ := Option.map_eq_some_iff.mp hu
  have ht' : t < r.deliveries.length := (List.getElem?_eq_some_iff.mp hd).1
  have hu' : u < r.deliveries.length := (List.getElem?_eq_some_iff.mp he).1
  have hone := h.atMostOne
  omega

/-- The only delivery finds the slot empty: an item in it would be its own. -/
private theorem slot_of_looking (h : r.Single) {t : Nat} {d : Delivery α}
    (hd : r.deliveries[t]? = some d) (hs : d.stage = .looking) : r.slot = none := by
  by_contra hfull
  obtain ⟨u, hu⟩ := Option.ne_none_iff_exists'.mp hfull
  obtain rfl := h.ticket_unique (pickup?_of_delivery hd) (h.sound.placed u hu)
  rcases ((h.sound.consistent t d hd).of_inSlot hu).1 with hs' | hs'
  · rw [hs] at hs'; cases hs'
  · rw [hs] at hs'; cases hs'

/-- Clearing the slot makes no delivery wait. -/
private theorem unparked_clear {r : Rendezvous α} (h : ∀ t w, r.deliveryStage? t ≠ some (.parked w))
    (t : Nat) (w : Bool) : r.clear.deliveryStage? t ≠ some (.parked w) := by
  intro hs
  obtain ⟨d, hd, hstage⟩ := delivery_of_stage hs
  rw [deliveries_clear] at hd
  obtain ⟨d₀, hd₀, rfl⟩ := Option.map_eq_some_iff.mp hd
  unfold Delivery.wake at hstage
  split at hstage
  · rename_i w' hw
    exact h t w' (by simp only [deliveryStage?, hd₀, Option.map_some, hw])
  · exact h t w (by simp only [deliveryStage?, hd₀, Option.map_some, hstage])

private theorem unparked_setDelivery {r : Rendezvous α}
    (h : ∀ t w, r.deliveryStage? t ≠ some (.parked w)) {stage : DeliverStage}
    (hstage : ∀ w, stage ≠ .parked w) (t u : Nat) (w : Bool) :
    (r.setDelivery t stage).deliveryStage? u ≠ some (.parked w) := by
  rw [deliveryStage?_setDelivery]
  intro hs
  obtain ⟨s, hs', heq⟩ := Option.map_eq_some_iff.mp hs
  split at heq
  · exact hstage w heq
  · exact h u w (heq ▸ hs')

/-- As long as no other delivery is started, the only one does not wait for the slot. -/
theorem of_moves {r' : Rendezvous α} {s : Step α} (h : r.Single) (hm : Moves r s r')
    (hs : ∀ item deadline, s ≠ .deliver item deadline) :
    r'.Single ∧ r'.deliveries.length = r.deliveries.length := by
  have hsound : r'.Sound := h.sound.of_moves hm
  -- soundness is known of all changes; what is left is that none of these lets a delivery wait
  suffices hrest : (∀ t w, r'.deliveryStage? t ≠ some (.parked w)) ∧
      r'.deliveries.length = r.deliveries.length from
    ⟨⟨hsound, hrest.2 ▸ h.atMostOne, hrest.1⟩, hrest.2⟩
  cases hm with
  | deliver item deadline => exact absurd rfl (hs item deadline)
  | fetch | await => exact ⟨h.unparked, rfl⟩
  | @advance _ t d stage _ hd ha =>
    have hstage : ∀ w, stage ≠ .parked w := by
      rintro w rfl
      cases ha with
      | park hlook hslot => exact hslot (h.slot_of_looking hd hlook)
      | @mark w' _ hpark =>
        exact h.unparked t w' (by simp only [deliveryStage?, hd, Option.map_some, hpark])
    exact ⟨unparked_setDelivery h.unparked hstage t, by simp [setDelivery]⟩
  | @place _ t =>
    have hstage : ∀ w, DeliverStage.offered ≠ .parked w := by simp
    exact ⟨unparked_setDelivery h.unparked hstage t, by simp [setDelivery, wakeFetches]⟩
  | @withdraw _ t d stage _ _ _ hend =>
    have hstage : ∀ w, stage ≠ .parked w := by
      rintro w rfl
      rcases hend with ⟨_, hend⟩ | ⟨_, hend⟩ <;> cases hend
    have hlost : ∀ u w, (r.setPickup t .lost).deliveryStage? u ≠ some (.parked w) := by
      intro u w
      rw [deliveryStage?_setPickup]
      exact h.unparked u w
    exact ⟨unparked_setDelivery (unparked_clear hlost) hstage t, by
      simp [setDelivery, clear, wakeDeliveries, setPickup]⟩
  | @take _ f t =>
    have htaken : ∀ u w, (r.setPickup t .taken).deliveryStage? u ≠ some (.parked w) := by
      intro u w
      rw [deliveryStage?_setPickup]
      exact h.unparked u w
    exact ⟨unparked_clear htaken, by simp [clear, wakeDeliveries, setPickup, setFetch]⟩
  | @finish f t d o _ hd htaken hopen =>
    refine ⟨?_, by simp [Rendezvous.report]⟩
    intro u w
    simp only [deliveryStage?, deliveries_report u o hd htaken hopen]
    rw [map_of_kept (fun d => by split <;> rfl)]
    exact h.unparked u w

end Single

end BuildBroker.Rendezvous
