import BuildBroker.Proofs.Rendezvous.CustodySteps

/-!
# Whose Item Is in the Slot

Deliveries compete for the slot, fetches empty it, deadlines pass and callers give up, in any order.
The parcel in the slot always belongs to one delivery, which is still there and has not heard of a
pickup; a delivery that has not placed its parcel yet has it in hand. As tickets tell deliveries apart
until their counter has run through, a delivery that withdraws by its ticket gets its own parcel or
nothing.

Main statements:
- `Custody.Owned`: who owns what.
- `owned_custody`: what is read off a rendezvous is owned.
- `Custody.Owned.withdraw`: withdrawing by a ticket.
- `Custody.owned_by_its_delivery`: all of this after every run.
-/

namespace BuildBroker.Rendezvous

variable {α : Type}

/-! ## §1 Owners -/

/-- A delivery that has not placed its parcel. -/
def Sending.IsUnplaced (d : Sending α) : Prop :=
  d.stage = .looking ∨ ∃ woken, d.stage = .parked woken

/-- A delivery that is under way with its parcel out of hand, and has not heard of a pickup. -/
def Sending.AwaitsPickup (d : Sending α) : Prop :=
  (d.stage = .offered ∨ d.stage = .expired) ∧ d.parcel = none ∧ d.picked = .silent

namespace Custody

/-- Everything belongs to the delivery that it was handed to, of all that were handed in. -/
structure Owned (c : Custody α) (items : List α) : Prop where
  /-- No two deliveries have the same ticket. -/
  tickets : ∀ (m n : Nat) (d e : Sending α), c.sendings[m]? = some d → c.sendings[n]? = some e →
    d.ticket = e.ticket → m = n
  /-- The parcel in the slot is that of a delivery which waits for its pickup; by `tickets`, no other
  has its ticket. -/
  slot : ∀ p, c.slot = some p → items[p.sender]? = some p.item ∧
    ∃ d, c.sendings[p.sender]? = some d ∧ d.ticket = p.ticket ∧ d.AwaitsPickup
  /-- A parcel that has not been placed is in the hand of its delivery, and nowhere else. -/
  unplaced : ∀ (n : Nat) (d : Sending α), c.sendings[n]? = some d → d.IsUnplaced →
    (∃ x, items[n]? = some x ∧ d.parcel = some ⟨d.ticket, x, n⟩) ∧
      (∀ p, c.slot = some p → p.sender ≠ n) ∧
      ∀ g ∈ c.takings, ∀ p, g.parcel = some p → p.sender ≠ n
  /-- The end of a delivery withdraws its parcel as long as the delivery listens for a pickup. -/
  armed : ∀ (n : Nat) (d : Sending α), c.sendings[n]? = some d →
    (d.armed = true ↔ d.stage = .offered)
  /-- As long as a delivery listens for a pickup, the line is not cut. -/
  connected : ∀ (n : Nat) (d : Sending α), c.sendings[n]? = some d → d.stage = .offered →
    d.picked ≠ .cut

namespace Owned

variable {c : Custody α} {items : List α}

/-- The ticket on the parcel in the slot is that of its sender alone. -/
theorem sender_eq (h : c.Owned items) {p : Parcel α} (hslot : c.slot = some p) {n : Nat}
    {e : Sending α} (he : c.sendings[n]? = some e) (hticket : e.ticket = p.ticket) :
    n = p.sender := by
  obtain ⟨-, d, hd, hd', -⟩ := h.slot p hslot
  exact h.tickets n p.sender e d he hd (hticket.trans hd'.symm)

/-- Withdrawing by its ticket, a delivery gets its own parcel or nothing. -/
theorem withdraw (h : c.Owned items) {n : Nat} {d : Sending α} (hd : c.sendings[n]? = some d) :
    (∃ p, c.slot = some p ∧ p.sender = n ∧ items[n]? = some p.item ∧
      c.withdraw d.ticket = ({ c with slot := none }.wakeSendings.discard p, true)) ∨
    (∀ p, c.slot = some p → p.sender ≠ n) ∧ c.withdraw d.ticket = (c, false) := by
  cases hslot : c.slot with
  | none => exact .inr ⟨by simp, by simp [Custody.withdraw, hslot]⟩
  | some p =>
    obtain ⟨hitem, e, he, hticket, -⟩ := h.slot p hslot
    by_cases hpn : p.sender = n
    · obtain rfl : e = d := by
        rw [hpn, hd] at he
        exact (Option.some.inj he).symm
      exact .inl ⟨p, rfl, hpn, hpn ▸ hitem, by simp [Custody.withdraw, hslot, hticket]⟩
    · have hother : p.ticket ≠ d.ticket := fun heq => hpn (h.sender_eq hslot hd heq.symm).symm
      refine .inr ⟨?_, by simp [Custody.withdraw, hslot, hother]⟩
      rintro q hq
      exact Option.some.inj hq ▸ hpn

end Owned

end Custody

/-! ## §2 What Is Read Off a Rendezvous -/

section Reading

variable {r : Rendezvous α} {n : Nat} {s : Sending α}

theorem delivery_of_sending (hs : r.custody.sendings[n]? = some s) :
    ∃ d, r.deliveries[n]? = some d ∧ d.inHand n = s :=
  Option.map_eq_some_iff.mp ((sendings_custody r n).symm.trans hs)

/-- The parcels that fetches have in hand are those of items that were taken. -/
theorem Sound.pickup?_of_taking (h : r.Sound) {g : Taking α} (hg : g ∈ r.custody.takings)
    {p : Parcel α} (hp : g.parcel = some p) : r.pickup? p.sender = some .taken := by
  obtain ⟨fetch, hfetch, rfl⟩ := List.mem_map.mp hg
  obtain ⟨f, hf⟩ := List.mem_iff_getElem?.mp hfetch
  obtain ⟨deadline, stage⟩ := fetch
  cases stage with
  | took t =>
    obtain ⟨x, hx, rfl⟩ := Option.map_eq_some_iff.mp hp
    exact h.pickup?_of_took hf rfl
  | looking | parked | timedOut | cancelled => cases hp

/-- What is in each hand at a rendezvous belongs there. -/
theorem owned_custody (h : r.Sound) (hfew : r.deliveries.length ≤ UInt64.size) :
    r.custody.Owned (r.deliveries.map Delivery.item) where
  tickets := by
    intro m n s s' hs hs' hticket
    obtain ⟨d, hd, rfl⟩ := delivery_of_sending hs
    obtain ⟨d', hd', rfl⟩ := delivery_of_sending hs'
    have hm : m < r.deliveries.length := (List.getElem?_eq_some_iff.mp hd).1
    have hn : n < r.deliveries.length := (List.getElem?_eq_some_iff.mp hd').1
    -- as few deliveries as tickets: two that drew the same ticket are one
    exact ticket_inj (by omega) (by omega) hticket
  slot := by
    intro p hp
    -- soundness says whose item the slot holds and that it still waits for its pickup
    obtain ⟨t, hslot, hparcel⟩ := Option.bind_eq_some_iff.mp hp
    obtain ⟨d, hd, hstage, hawaited, -⟩ := h.delivery_of_slot hslot
    rw [parcel?_of_delivery hd] at hparcel
    obtain rfl := Option.some.inj hparcel
    refine ⟨by simp [hd], d.inHand t, sending_of_delivery hd, rfl, hstage, ?_, ?_⟩
    · rcases hstage with hs | hs
      · simp [Delivery.inHand, hs]
      · simp [Delivery.inHand, hs]
    · exact Delivery.pickedLine_of_awaited (DeliverStage.going_of_placed hstage) hawaited
  unplaced := by
    intro n s hs hunplaced
    obtain ⟨d, hd, rfl⟩ := delivery_of_sending hs
    -- who looks or is parked has its item in hand, and nobody else has it
    have hstage : d.stage = .looking ∨ ∃ woken, d.stage = .parked woken := hunplaced
    obtain ⟨hslot, hawaited, -⟩ := h.delivery_of_unplaced hd hstage
    refine ⟨⟨d.item, by simp [hd], ?_⟩, ?_, ?_⟩
    · rcases hstage with hs | ⟨woken, hs⟩
      · simp [Delivery.inHand, hs]
      · simp [Delivery.inHand, hs]
    · rintro p hp rfl
      obtain ⟨t, ht, hparcel⟩ := Option.bind_eq_some_iff.mp hp
      obtain ⟨x, hx, rfl⟩ := Option.map_eq_some_iff.mp hparcel
      exact hslot ht
    · rintro g hg p hp rfl
      -- a fetch has only what was taken, and this item is awaited still
      have htaken := h.pickup?_of_taking hg hp
      rw [pickup?_of_delivery hd, hawaited] at htaken
      cases htaken
  armed := by
    intro n s hs
    obtain ⟨d, hd, rfl⟩ := delivery_of_sending hs
    simp [Delivery.inHand]
  connected := by
    intro n s hs hoffered
    obtain ⟨d, hd, rfl⟩ := delivery_of_sending hs
    have hs : d.stage = .offered := hoffered
    have hstage := (h.consistent n d hd).2
    simp only [hs] at hstage
    -- an offered item waits in the slot, or was taken and the word of it is on its way
    rcases hstage with ⟨-, hp⟩ | ⟨-, hp⟩
    · have hpicked : (d.inHand n).picked = .silent :=
        Delivery.pickedLine_of_awaited (hs ▸ id) hp
      simp [hpicked]
    · have hpicked : (d.inHand n).picked = .said () := Delivery.pickedLine_of_taken hp
      simp [hpicked]

end Reading

namespace Custody

/-- As long as the counter of tickets does not run through, custody goes the way of the rendezvous,
and after every run the parcel in the slot is that of one delivery, which waits for its pickup; what
has not been placed is with its delivery; no delivery that listens finds its line cut; and who
withdraws by a ticket gets the parcel of the delivery that drew it, or nothing. -/
theorem owned_by_its_delivery {steps : List (Step α)}
    (hfew : (steps.filterMap Step.item?).length ≤ UInt64.size) :
    Custody.empty.play steps = (Rendezvous.empty.play steps).map custody ∧
    ∀ c : Custody α, Custody.empty.play steps = some c →
      c.Owned (steps.filterMap Step.item?) ∧
      ∀ (n : Nat) (d : Sending α), c.sendings[n]? = some d →
        (∃ p, c.slot = some p ∧ p.sender = n ∧ (steps.filterMap Step.item?)[n]? = some p.item ∧
          c.withdraw d.ticket = ({ c with slot := none }.wakeSendings.discard p, true)) ∨
        (∀ p, c.slot = some p → p.sender ≠ n) ∧ c.withdraw d.ticket = (c, false) := by
  have hsame := custody_play hfew
  refine ⟨hsame, fun c hc => ?_⟩
  rw [hsame] at hc
  obtain ⟨r, hr, rfl⟩ := Option.map_eq_some_iff.mp hc
  have hitems := items_of_play hr
  -- a run has as many deliveries as it has items to deliver
  have hlength : r.deliveries.length ≤ UInt64.size := by
    rw [← hitems, List.length_map] at hfew
    exact hfew
  have howned := owned_custody (sound_empty.of_play hr) hlength
  rw [hitems] at howned
  exact ⟨howned, fun n d hd => howned.withdraw hd⟩

/-- The first delivery runs out of time while a fetch takes its item; the second one has placed its
own by then. -/
def overtaken : List (Step Nat) :=
  [.deliver 7 5, .deliver 8 9, .fetch 9, .deliveryTurn 0 0, .deliveryTurn 0 1, .deliveryTurn 5 0,
    .fetchTurn 5 0, .deliveryTurn 5 1, .deliveryTurn 5 1]

/-- Where everything is then. -/
def overtakenEnd : Custody Nat where
  slot := some ⟨1, 8, 1⟩
  next := 2
  sendings := [⟨5, 0, .expired, none, false, .said (), .silent⟩,
    ⟨9, 1, .offered, none, true, .silent, .silent⟩]
  takings := [⟨9, .took 0, some ⟨0, 7, 0⟩, true⟩]

/-- Withdrawing late, the first delivery leaves the item of the second one alone. -/
theorem owned_by_its_delivery_overtaken :
    Custody.empty.play overtaken = some overtakenEnd ∧ overtakenEnd.Owned [7, 8] ∧
    overtakenEnd.withdraw 0 = (overtakenEnd, false) := by
  have hfew : (overtaken.filterMap Step.item?).length ≤ UInt64.size := by decide
  have hplay : Custody.empty.play overtaken = some overtakenEnd := by decide
  obtain ⟨howned, hwithdraw⟩ := (owned_by_its_delivery hfew).2 overtakenEnd hplay
  refine ⟨hplay, howned, ?_⟩
  rcases hwithdraw 0 _ rfl with ⟨p, hp, hsender, -⟩ | ⟨-, hkept⟩
  · obtain rfl := Option.some.inj hp
    cases hsender
  · exact hkept

end Custody

end BuildBroker.Rendezvous
