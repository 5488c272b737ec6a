import Mathlib.Algebra.GroupWithZero.Nat
import BuildBroker.Proofs.Rendezvous.Moves

/-!
# Turns of Waiting Calls

What a call does in a turn of its own, told apart from what others do to it, and why calls that take
turns come to rest: however many of them wake each other, every turn uses up some of the unrest.

Main statements:
- `Delivery.MovesOn`, `DeliveryTurn`, `FetchTurn`: what a call may do in a turn, and when.
- `deliveryTurn_of_turn?`, `fetchTurn_of_turn?`: there is nothing else it may do.
- `unrest`: how many turns can be taken before everybody waits, at most.
- `unrest_deliveryTurn?`, `unrest_fetchTurn?`: every turn uses up some of it.
-/

namespace BuildBroker.Rendezvous

variable {α : Type}

/-! ## §1 What a turn does -/

/-- How a delivery moves on in a turn of its own that leaves the slot as it is. -/
inductive Delivery.MovesOn (now : Nat) (slot : Option Nat) (t : Nat) (d : Delivery α) :
    DeliverStage → Prop where
  | park : d.stage = .looking → slot ≠ none → MovesOn now slot t d (.parked false)
  | look : d.stage = .parked true → MovesOn now slot t d .looking
  | giveUp : d.stage = .parked false → d.deadline ≤ now →
      MovesOn now slot t d (.returned .notFetched)
  | pickedUp : d.stage = .offered → d.pickup = .taken → MovesOn now slot t d .draining
  | lost : d.stage = .offered → d.pickup = .lost → MovesOn now slot t d (.returned .notFetched)
  | expire : d.stage = .offered → d.pickup = .awaited → d.deadline ≤ now →
      MovesOn now slot t d .expired
  | late : d.stage = .expired → slot ≠ some t → MovesOn now slot t d .draining
  | drained {o : Outcome} : d.stage = .draining → d.outcome = some o →
      MovesOn now slot t d (.returned (.drained o))
  | forgotten : d.stage = .draining → d.outcome = none → d.pickup = .lost →
      MovesOn now slot t d (.returned (.drained .interrupted))

/-- What a delivery does in a turn. -/
inductive DeliveryTurn (now : Nat) (r : Rendezvous α) (t : Nat) (d : Delivery α) :
    Rendezvous α → Prop where
  | place : d.stage = .looking → r.slot = none →
      DeliveryTurn now r t d ({ r.setDelivery t .offered with slot := some t }).wakeFetches
  | moves {stage : DeliverStage} : d.MovesOn now r.slot t stage →
      DeliveryTurn now r t d (r.setDelivery t stage)
  | withdraw : d.stage = .expired → r.slot = some t →
      DeliveryTurn now r t d (((r.setPickup t .lost).clear).setDelivery t (.returned .notFetched))

/-- What a fetch does in a turn. -/
inductive FetchTurn (now : Nat) (r : Rendezvous α) (f : Nat) (g : Fetch) : Rendezvous α → Prop where
  | take {t : Nat} : g.stage = .looking → r.slot = some t →
      FetchTurn now r f g (((r.setPickup t .taken).clear).setFetch f (.took t))
  | park : g.stage = .looking → r.slot = none → FetchTurn now r f g (r.setFetch f (.parked false))
  | look : g.stage = .parked true → FetchTurn now r f g (r.setFetch f .looking)
  | giveUp : g.stage = .parked false → g.deadline ≤ now →
      FetchTurn now r f g (r.setFetch f .timedOut)

section Inversion

variable {now : Nat} {r r' : Rendezvous α}

theorem deliveryTurn_of_turn? {t : Nat} (h : r.deliveryTurn? now t = some r') :
    ∃ d, r.deliveries[t]? = some d ∧ DeliveryTurn now r t d r' := by
  unfold deliveryTurn? at h
  cases hd : r.deliveries[t]? with
  | none => simp [hd] at h
  | some d =>
    refine ⟨d, rfl, ?_⟩
    simp only [hd] at h
    -- the cases are the stages, and in each the guards that the turn looks at
    cases hs : d.stage with
    | looking =>
      simp only [hs] at h
      split at h
      · rename_i hslot
        cases h
        exact .place hs hslot
      · rename_i hslot
        cases h
        exact .moves (.park hs hslot)
    | parked woken =>
      -- a delivery that was woken looks again; one that was not can only give up
      cases woken with
      | true =>
        simp only [hs, Option.some.injEq] at h
        subst h
        exact .moves (.look hs)
      | false =>
        simp only [hs] at h
        split at h
        · rename_i hover
          cases h
          exact .moves (.giveUp hs hover)
        · cases h
    | offered =>
      simp only [hs] at h
      split at h
      -- the three are what may have become of the item in the slot
      · rename_i hp
        cases h
        exact .moves (.pickedUp hs hp)
      · rename_i hp
        cases h
        exact .moves (.lost hs hp)
      · rename_i hp
        split at h
        · rename_i hover
          cases h
          exact .moves (.expire hs hp hover)
        · cases h
    | expired =>
      simp only [hs] at h
      split at h
      · rename_i hslot
        -- it is in time to take its item back
        rw [Rendezvous.withdraw, if_pos hslot] at h
        cases h
        exact .withdraw hs hslot
      · rename_i hslot
        cases h
        -- a fetch was faster, so its outcome has to be waited for
        exact .moves (.late hs hslot)
    | draining =>
      simp only [hs] at h
      split at h
      · rename_i o _ ho
        cases h
        exact .moves (.drained hs ho)
      · rename_i ho hp
        cases h
        exact .moves (.forgotten hs ho hp)
      · cases h
    -- it is over, and has no turn
    | returned | cancelled => simp [hs] at h

theorem fetchTurn_of_turn? {f : Nat} (h : r.fetchTurn? now f = some r') :
    ∃ g, r.fetches[f]? = some g ∧ FetchTurn now r f g r' := by
  unfold fetchTurn? at h
  cases hg : r.fetches[f]? with
  | none => simp [hg] at h
  | some g =>
    refine ⟨g, rfl, ?_⟩
    simp only [hg] at h
    cases hs : g.stage with
    | looking =>
      simp only [hs] at h
      split at h
      -- what it finds in the slot is its own from now on
      · rename_i t hslot
        cases h
        exact .take hs hslot
      · rename_i hslot
        cases h
        exact .park hs hslot
    | parked woken =>
      -- as for a delivery: it looks again if it was woken, and else can only give up
      cases woken with
      | true =>
        simp only [hs, Option.some.injEq] at h
        subst h
        exact .look hs
      | false =>
        simp only [hs] at h
        split at h
        · rename_i hover
          cases h
          exact .giveUp hs hover
        · cases h
    | took | timedOut | cancelled => simp [hs] at h

end Inversion

/-! ## §2 How many turns there can be -/

/-- How many turns a delivery can still take unless it is woken. -/
def DeliverStage.rank : DeliverStage → Nat
  | .parked true => 6
  | .looking => 5
  | .parked false => 4
  | .offered => 3
  | .expired => 2
  | .draining => 1
  | .returned _ | .cancelled => 0

/-- Whether a delivery has yet to place its item, as a number. -/
def DeliverStage.unplaced : DeliverStage → Nat
  | .looking | .parked _ => 1
  | _ => 0

/-- How many turns a fetch can still take unless it is woken. -/
def FetchStage.rank : FetchStage → Nat
  | .parked true => 3
  | .looking => 2
  | .parked false => 1
  | .took _ | .timedOut | .cancelled => 0

/-- The sum of a weight over all deliveries. -/
def deliverySum (w : DeliverStage → Nat) (r : Rendezvous α) : Nat :=
  (r.deliveries.map fun d => w d.stage).sum

/-- The sum of a weight over all fetches. -/
def fetchSum (w : FetchStage → Nat) (r : Rendezvous α) : Nat :=
  (r.fetches.map fun g => w g.stage).sum

/-- What the item in the slot can still cause: when it goes, all deliveries can be woken. -/
def due (r : Rendezvous α) : Nat :=
  if r.isOccupied then 2 * r.deliveries.length else 0

/-- The number of turns that calls can take before everybody waits, at most. Being woken is worth
two turns, and every item that is yet to be placed can wake all fetches when it comes and all
deliveries when it goes. -/
def unrest (r : Rendezvous α) : Nat :=
  deliverySum DeliverStage.rank r + fetchSum FetchStage.rank r
    + 2 * (r.deliveries.length + r.fetches.length) * deliverySum DeliverStage.unplaced r + due r

/-! ### Sums of weights -/

private theorem sum_modify {β : Type} (w : β → Nat) (g : β → β) {l : List β} {n : Nat} {x : β}
    (h : l[n]? = some x) : ((l.modify n g).map w).sum + w x = (l.map w).sum + w (g x) := by
  induction l generalizing n with
  | nil => cases h
  | cons y l ih =>
    cases n with
    | zero =>
      obtain rfl : y = x := by simpa using h
      simp only [List.modify_zero_cons, List.map_cons, List.sum_cons]
      omega
    | succ n =>
      have hrest := ih (n := n) (by simpa using h)
      simp only [List.modify_succ_cons, List.map_cons, List.sum_cons]
      omega

/-- A change of one element keeps what it keeps of that element. -/
theorem map_modify_of_kept {β γ : Type} {view : β → γ} {change : β → β}
    (hkept : ∀ x, view (change x) = view x) (l : List β) (n : Nat) :
    (l.modify n change).map view = l.map view := by
  induction l generalizing n with
  | nil => simp
  | cons x l ih => cases n <;> simp [hkept, ih]

private theorem sum_map_le {β : Type} (w : β → Nat) (g : β → β) (k : Nat)
    (h : ∀ x, w (g x) ≤ w x + k) (l : List β) :
    ((l.map g).map w).sum ≤ (l.map w).sum + k * l.length := by
  induction l with
  | nil => simp
  | cons x l ih =>
    have hx := h x
    simp only [List.map_cons, List.sum_cons, List.length_cons, Nat.mul_add, Nat.mul_one]
    omega

section Sums

variable (w : DeliverStage → Nat) (v : FetchStage → Nat) {r : Rendezvous α} {t f : Nat}

theorem deliverySum_setDelivery {d : Delivery α} (hd : r.deliveries[t]? = some d)
    (stage : DeliverStage) :
    deliverySum w (r.setDelivery t stage) + w d.stage = deliverySum w r + w stage :=
  sum_modify _ _ hd

theorem deliverySum_setPickup (p : Pickup) :
    deliverySum w (r.setPickup t p) = deliverySum w r :=
  congrArg List.sum (map_modify_of_kept (by intro d; rfl) r.deliveries t)

/-- Waking the deliveries is worth two turns each. -/
theorem deliverySum_clear_le :
    deliverySum DeliverStage.rank r.clear ≤
      deliverySum DeliverStage.rank r + 2 * r.deliveries.length := by
  apply sum_map_le
  intro d
  unfold Delivery.wake
  split
  · rename_i woken hs
    cases woken <;> simp [hs, DeliverStage.rank]
  · omega

/-- A delivery that is woken has placed its item no more than before. -/
theorem unplaced_clear :
    deliverySum DeliverStage.unplaced r.clear = deliverySum DeliverStage.unplaced r := by
  simp only [deliverySum, clear, wakeDeliveries, List.map_map]
  congr 2
  funext d
  simp only [Function.comp_apply, Delivery.wake]
  split
  · rename_i woken hs
    simp [hs, DeliverStage.unplaced]
  · rfl

theorem fetchSum_setFetch {g : Fetch} (hg : r.fetches[f]? = some g) (stage : FetchStage) :
    fetchSum v (r.setFetch f stage) + v g.stage = fetchSum v r + v stage :=
  sum_modify _ _ hg

/-- Waking the fetches is worth two turns each. -/
theorem fetchSum_wakeFetches_le :
    fetchSum FetchStage.rank r.wakeFetches ≤
      fetchSum FetchStage.rank r + 2 * r.fetches.length := by
  apply sum_map_le
  intro g
  unfold Fetch.wake
  split
  · rename_i woken hs
    cases woken <;> simp [hs, FetchStage.rank]
  · omega

end Sums

section Lengths

variable (r : Rendezvous α) (t f : Nat)

@[simp] theorem length_deliveries_setDelivery (stage : DeliverStage) :
    (r.setDelivery t stage).deliveries.length = r.deliveries.length := by
  simp [setDelivery]

@[simp] theorem length_deliveries_setPickup (p : Pickup) :
    (r.setPickup t p).deliveries.length = r.deliveries.length := by
  simp [setPickup]

@[simp] theorem length_deliveries_clear :
    r.clear.deliveries.length = r.deliveries.length := by
  simp [clear, wakeDeliveries]

@[simp] theorem length_fetches_setFetch (stage : FetchStage) :
    (r.setFetch f stage).fetches.length = r.fetches.length := by
  simp [setFetch]

@[simp] theorem length_fetches_wakeFetches :
    r.wakeFetches.fetches.length = r.fetches.length := by
  simp [wakeFetches]

end Lengths

theorem due_of_slot {r : Rendezvous α} {t : Nat} (h : r.slot = some t) :
    due r = 2 * r.deliveries.length := by
  simp [due, isOccupied, h]

theorem due_of_empty {r : Rendezvous α} (h : r.slot = none) : due r = 0 := by
  simp [due, isOccupied, h]

/-! ### Every turn counts -/

theorem Delivery.MovesOn.rank_lt {now t : Nat} {slot : Option Nat} {d : Delivery α}
    {stage : DeliverStage} (h : d.MovesOn now slot t stage) :
    stage.rank < d.stage.rank ∧ stage.unplaced ≤ d.stage.unplaced := by
  -- no way leads back: a delivery that looks again has been woken, which ranks highest
  cases h with
  | park hs | look hs | giveUp hs | pickedUp hs | lost hs | expire hs | late hs | drained hs
  | forgotten hs => simp [hs, DeliverStage.rank, DeliverStage.unplaced]

section Unrest

variable {now t f : Nat} {r r' : Rendezvous α}

/-- A delivery that moves on by itself leaves less unrest. -/
theorem unrest_setDelivery_lt {d : Delivery α} (hd : r.deliveries[t]? = some d)
    {stage : DeliverStage} (hrank : stage.rank < d.stage.rank)
    (hunplaced : stage.unplaced ≤ d.stage.unplaced) :
    (r.setDelivery t stage).unrest < r.unrest := by
  have hranks := deliverySum_setDelivery DeliverStage.rank hd stage
  have hplaces := deliverySum_setDelivery DeliverStage.unplaced hd stage
  have hfetches : fetchSum FetchStage.rank (r.setDelivery t stage) =
      fetchSum FetchStage.rank r := rfl
  have hdue : due (r.setDelivery t stage) = due r :=
    congrArg (if r.isOccupied then 2 * · else 0) (length_deliveries_setDelivery r t stage)
  have hfewer : deliverySum DeliverStage.unplaced (r.setDelivery t stage) ≤
      deliverySum DeliverStage.unplaced r := by omega
  have hproduct := Nat.mul_le_mul_left (2 * (r.deliveries.length + r.fetches.length)) hfewer
  unfold unrest
  rw [hfetches, hdue, length_deliveries_setDelivery]
  change _ + 2 * (r.deliveries.length + r.fetches.length) * _ + _ < _
  omega

/-- So does a fetch. -/
theorem unrest_setFetch_lt {g : Fetch} (hg : r.fetches[f]? = some g) {stage : FetchStage}
    (hrank : stage.rank < g.stage.rank) : (r.setFetch f stage).unrest < r.unrest := by
  have hranks := fetchSum_setFetch FetchStage.rank hg stage
  have hdeliveries : ∀ w, deliverySum w (r.setFetch f stage) = deliverySum w r := fun _ => rfl
  have hdue : due (r.setFetch f stage) = due r := rfl
  unfold unrest
  rw [hdeliveries, hdeliveries, hdue, length_fetches_setFetch]
  change _ + 2 * (r.deliveries.length + r.fetches.length) * _ + _ < _
  omega

/-- Clearing the slot wakes the deliveries, which is what was due for the item in it. -/
theorem unrest_clear_le (hslot : r.slot = some t) (p : Pickup) :
    ((r.setPickup t p).clear).unrest ≤ r.unrest := by
  have hwoken := deliverySum_clear_le (r := r.setPickup t p)
  have hplaces := unplaced_clear (r := r.setPickup t p)
  have hfetches : fetchSum FetchStage.rank ((r.setPickup t p).clear) =
      fetchSum FetchStage.rank r := rfl
  have hdue : due ((r.setPickup t p).clear) = 0 := due_of_empty rfl
  rw [deliverySum_setPickup, length_deliveries_setPickup] at hwoken
  rw [deliverySum_setPickup] at hplaces
  unfold unrest
  rw [hplaces, hfetches, hdue, due_of_slot hslot, length_deliveries_clear,
    length_deliveries_setPickup]
  change _ + 2 * (r.deliveries.length + r.fetches.length) * _ + _ ≤ _
  omega

/-- Placing an item wakes the fetches, and the deliveries when it goes again: both were counted with
the delivery that had yet to place it. -/
theorem unrest_place_lt {d : Delivery α} (hd : r.deliveries[t]? = some d) (hs : d.stage = .looking)
    (hslot : r.slot = none) :
    ({ r.setDelivery t .offered with slot := some t }).wakeFetches.unrest < r.unrest := by
  have hranks := deliverySum_setDelivery DeliverStage.rank hd .offered
  have hplaces := deliverySum_setDelivery DeliverStage.unplaced hd .offered
  have hwoken := fetchSum_wakeFetches_le (r := { r.setDelivery t .offered with slot := some t })
  have hlength := length_deliveries_setDelivery r t .offered
  have hdue := due_of_slot (r := ({ r.setDelivery t .offered with slot := some t }).wakeFetches)
    (t := t) rfl
  simp only [hs, DeliverStage.rank, DeliverStage.unplaced, Nat.add_zero] at hranks hplaces
  -- neither the slot nor the marks of the fetches count in the sums over the deliveries
  change _ ≤ fetchSum _ r + 2 * r.fetches.length at hwoken
  change _ = 2 * (r.setDelivery t .offered).deliveries.length at hdue
  have hproduct : 2 * (r.deliveries.length + r.fetches.length) *
      deliverySum DeliverStage.unplaced r =
        2 * (r.deliveries.length + r.fetches.length) *
          deliverySum DeliverStage.unplaced (r.setDelivery t .offered)
          + 2 * (r.deliveries.length + r.fetches.length) := by
    rw [← hplaces, Nat.mul_add, Nat.mul_one]
  unfold unrest
  rw [hdue, due_of_empty hslot, length_fetches_wakeFetches, hproduct]
  change deliverySum _ (r.setDelivery t .offered) + _ +
    2 * ((r.setDelivery t .offered).deliveries.length + r.fetches.length) *
      deliverySum _ (r.setDelivery t .offered) + _ < _
  rw [hlength]
  omega

theorem unrest_deliveryTurn? (h : r.deliveryTurn? now t = some r') : r'.unrest < r.unrest := by
  obtain ⟨d, hd, hturn⟩ := deliveryTurn_of_turn? h
  cases hturn with
  | place hs hslot => exact unrest_place_lt hd hs hslot
  | moves hon =>
    obtain ⟨hrank, hunplaced⟩ := hon.rank_lt
    exact unrest_setDelivery_lt hd hrank hunplaced
  | withdraw hs hslot =>
    -- whoever withdraws his item does not wait for the slot, so he is not among those woken
    have hstage : ({ d with pickup := .lost } : Delivery α).wake.stage = .expired := by
      simp [Delivery.wake, hs]
    have hd' : ((r.setPickup t .lost).clear).deliveries[t]? =
        some ({ d with pickup := .lost } : Delivery α).wake := by
      rw [deliveries_clear, deliveries_setPickup, hd]
      simp
    calc unrest (((r.setPickup t .lost).clear).setDelivery t (.returned .notFetched))
        < unrest ((r.setPickup t .lost).clear) :=
          unrest_setDelivery_lt hd' (by simp [hstage, DeliverStage.rank]) (Nat.zero_le _)
      _ ≤ unrest r := unrest_clear_le hslot .lost

theorem unrest_fetchTurn? (h : r.fetchTurn? now f = some r') : r'.unrest < r.unrest := by
  obtain ⟨g, hg, hturn⟩ := fetchTurn_of_turn? h
  cases hturn with
  | @take t hs hslot =>
    calc unrest (((r.setPickup t .taken).clear).setFetch f (.took t))
        < unrest ((r.setPickup t .taken).clear) :=
          unrest_setFetch_lt (r := (r.setPickup t .taken).clear) hg (by simp [hs, FetchStage.rank])
      _ ≤ unrest r := unrest_clear_le hslot .taken
  | park hs | look hs | giveUp hs =>
    exact unrest_setFetch_lt hg (by simp [hs, FetchStage.rank])

end Unrest

end BuildBroker.Rendezvous
