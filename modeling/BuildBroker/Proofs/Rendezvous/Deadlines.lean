import BuildBroker.Proofs.Rendezvous.Sound

/-!
# Deadlines at a Rendezvous

A delivery gives up only after it has looked at the clock and found its deadline passed; what it
delivers, and until when, never changes.

Main statements:
- `Moves.delivery`: a delivery keeps its item and its deadline.
- `late_of_step?`: a delivery becomes late in a turn of its own, at or after its deadline.
-/

namespace BuildBroker.Rendezvous

variable {α : Type} {r r' : Rendezvous α} {s : Step α} {t u : Nat}

/-! ## §1 What Is Delivered -/

/-- A delivery keeps its item and its deadline. -/
theorem Moves.delivery (hm : Moves r s r') {d : Delivery α} (hd : r.deliveries[t]? = some d) :
    ∃ d', r'.deliveries[t]? = some d' ∧ d'.item = d.item ∧ d'.deadline = d.deadline := by
  -- marking a delivery changes its stage at most
  have hwake : ∀ e : Delivery α, e.wake.item = e.item ∧ e.wake.deadline = e.deadline := by
    intro e
    obtain ⟨stage, heq⟩ := e.wake_eq
    rw [heq]
    exact ⟨rfl, rfl⟩
  cases hm with
  | deliver item deadline =>
    have hlt : t < r.deliveries.length := (List.getElem?_eq_some_iff.mp hd).1
    exact ⟨d, by rw [deliveries_startDelivery, if_neg (Nat.ne_of_lt hlt), hd], rfl, rfl⟩
  | fetch | await => exact ⟨d, hd, rfl, rfl⟩
  | advance =>
    rw [deliveries_setDelivery, hd]
    refine ⟨_, rfl, ?_⟩
    split <;> exact ⟨rfl, rfl⟩
  | @place _ u =>
    refine ⟨_, (deliveries_setDelivery r u t .offered).trans (by rw [hd]; rfl), ?_⟩
    split <;> exact ⟨rfl, rfl⟩
  | withdraw =>
    rw [deliveries_setDelivery, deliveries_clear, deliveries_setPickup, hd]
    refine ⟨_, rfl, ?_⟩
    split <;> exact hwake _
  | take =>
    rw [deliveries_setFetch, deliveries_clear, deliveries_setPickup, hd]
    refine ⟨_, rfl, ?_⟩
    split <;> exact hwake _
  | finish _ he htaken hopen =>
    rw [deliveries_report t _ he htaken hopen, hd]
    refine ⟨_, rfl, ?_⟩
    split <;> exact ⟨rfl, rfl⟩

/-! ## §2 Giving Up -/

/-- The deadline has made the delivery give up, or is about to. -/
def DeliverStage.IsLate : DeliverStage → Prop
  | .expired | .returned .notFetched => True
  | _ => False

/-- The delivery with a ticket is late. -/
def IsLate (r : Rendezvous α) (t : Nat) : Prop :=
  ∃ stage, r.deliveryStage? t = some stage ∧ stage.IsLate

namespace IsLate

theorem of_setDelivery {stage : DeliverStage} (h : (r.setDelivery u stage).IsLate t) :
    u = t ∧ stage.IsLate ∨ r.IsLate t := by
  obtain ⟨stage', hs, hlate⟩ := h
  rw [deliveryStage?_setDelivery] at hs
  obtain ⟨old, hold, heq⟩ := Option.map_eq_some_iff.mp hs
  split at heq
  · rename_i hu
    exact .inl ⟨hu, heq ▸ hlate⟩
  · exact .inr ⟨old, hold, heq ▸ hlate⟩

/-- A delivery that goes to a stage that is not late makes none late. -/
theorem of_setDelivery_of_not {stage : DeliverStage} (h : (r.setDelivery u stage).IsLate t)
    (hstage : ¬stage.IsLate) : r.IsLate t := by
  rcases h.of_setDelivery with ⟨_, hlate⟩ | hold
  · exact absurd hlate hstage
  · exact hold

theorem of_setPickup {p : Pickup} (h : (r.setPickup u p).IsLate t) : r.IsLate t := by
  obtain ⟨stage, hs, hlate⟩ := h
  exact ⟨stage, by rwa [deliveryStage?_setPickup] at hs, hlate⟩

/-- A mark makes no delivery late. -/
theorem of_clear (h : r.clear.IsLate t) : r.IsLate t := by
  obtain ⟨stage, hs, hlate⟩ := h
  obtain ⟨d, hd, rfl⟩ := delivery_of_stage hs
  rw [deliveries_clear] at hd
  obtain ⟨e, he, rfl⟩ := Option.map_eq_some_iff.mp hd
  unfold Delivery.wake at hlate
  split at hlate
  · exact hlate.elim
  · exact ⟨e.stage, by simp only [deliveryStage?, he, Option.map_some], hlate⟩

theorem of_startDelivery {item : α} {deadline : Nat}
    (h : (r.startDelivery item deadline).IsLate t) : r.IsLate t := by
  obtain ⟨stage, hs, hlate⟩ := h
  obtain ⟨d, hd, rfl⟩ := delivery_of_stage hs
  rw [deliveries_startDelivery] at hd
  split at hd
  · cases hd
    exact hlate.elim
  · exact ⟨d.stage, by simp only [deliveryStage?, hd, Option.map_some], hlate⟩

theorem of_withdraw (h : (r.withdraw u).IsLate t) : r.IsLate t := by
  unfold Rendezvous.withdraw at h
  split at h
  · exact h.of_clear.of_setPickup
  · exact h

end IsLate

/-- A delivery becomes late in a turn of its own, at or after its deadline. -/
private theorem late_of_deliveryTurn? {now : Nat} (hsound : r.Sound)
    (h : r.deliveryTurn? now u = some r') (hlate : r'.IsLate t) :
    r.IsLate t ∨ u = t ∧ ∃ d, r.deliveries[t]? = some d ∧ d.deadline ≤ now := by
  unfold deliveryTurn? at h
  cases hd : r.deliveries[u]? with
  | none => simp [hd] at h
  | some d =>
    have hgaveUp : d.deadline ≤ now → ∀ {stage : DeliverStage},
        (r.setDelivery u stage).IsLate t →
        r.IsLate t ∨ u = t ∧ ∃ d, r.deliveries[t]? = some d ∧ d.deadline ≤ now := by
      intro hover stage hlate
      rcases hlate.of_setDelivery with ⟨rfl, _⟩ | hold
      · exact .inr ⟨rfl, d, hd, hover⟩
      · exact .inl hold
    simp only [hd] at h
    cases hs : d.stage with
    | looking =>
      simp only [hs] at h
      split at h
      · cases h
        exact .inl (IsLate.of_setDelivery_of_not (r := r) hlate id)
      · cases h
        exact .inl (hlate.of_setDelivery_of_not id)
    | parked woken =>
      cases woken with
      | true =>
        simp only [hs, Option.some.injEq] at h
        subst h
        exact .inl (hlate.of_setDelivery_of_not id)
      | false =>
        simp only [hs] at h
        split at h
        · rename_i hover
          cases h
          exact hgaveUp hover hlate
        · cases h
    | offered =>
      simp only [hs] at h
      cases hp : d.pickup with
      | taken =>
        simp only [hp, Option.some.injEq] at h
        subst h
        exact .inl (hlate.of_setDelivery_of_not id)
      | lost =>
        -- an item that is offered has not been withdrawn
        have hconsistent := (hsound.consistent u d hd).2
        simp [hs, hp] at hconsistent
      | awaited =>
        simp only [hp] at h
        split at h
        · rename_i hover
          cases h
          exact hgaveUp hover hlate
        · cases h
    | expired =>
      have hold : u = t → r.IsLate t := by
        rintro rfl
        exact ⟨.expired, by simp only [deliveryStage?, hd, Option.map_some, hs], trivial⟩
      simp only [hs] at h
      split at h
      · cases h
        rcases hlate.of_setDelivery with ⟨hu, _⟩ | hwithdrawn
        · exact .inl (hold hu)
        · exact .inl hwithdrawn.of_withdraw
      · cases h
        exact .inl (hlate.of_setDelivery_of_not id)
    | draining =>
      simp only [hs] at h
      split at h
      · cases h
        exact .inl (hlate.of_setDelivery_of_not id)
      · cases h
        exact .inl (hlate.of_setDelivery_of_not id)
      · cases h
    | returned | cancelled => simp [hs] at h

/-- A delivery becomes late in a turn of its own, at or after its deadline. -/
theorem late_of_step? (hsound : r.Sound) (h : r.step? s = some r') (hlate : r'.IsLate t) :
    r.IsLate t ∨
      ∃ now d, s = .deliveryTurn now t ∧ r.deliveries[t]? = some d ∧ d.deadline ≤ now := by
  -- only a turn of a delivery looks at its deadline; all other steps make nobody late
  cases s with
  | deliver item deadline =>
    cases h
    exact .inl hlate.of_startDelivery
  | fetch deadline =>
    cases h
    exact .inl hlate
  | deliveryTurn now u =>
    rcases late_of_deliveryTurn? hsound h hlate with hold | ⟨rfl, d, hd, hover⟩
    · exact .inl hold
    · exact .inr ⟨now, d, rfl, hd, hover⟩
  | cancelDelivery u =>
    simp only [step?] at h
    split at h
    · cases h
      refine .inl ?_
      -- giving up a delivery ends it, so one that is late now is another one
      unfold cancelDelivery at hlate
      split at hlate
      · exact hlate.of_setDelivery_of_not id
      · exact hlate.of_setDelivery_of_not id
      · exact (hlate.of_setDelivery_of_not id).of_withdraw
      · exact hlate
    · cases h
  | markDelivery u woken =>
    simp only [step?] at h
    split at h
    · cases h
      exact .inl (hlate.of_setDelivery_of_not id)
    · cases h
  | fetchTurn now f =>
    have hm := moves_of_step? (s := .fetchTurn now f) h
    cases hm with
    | advance hnone | withdraw hnone => cases hnone
    | await => exact .inl hlate
    | take => exact .inl (IsLate.of_clear hlate).of_setPickup
  | finish f o =>
    have hm := moves_of_step? (s := .finish f o) h
    cases hm with
    | advance hnone | withdraw hnone => cases hnone
    | await hs hne =>
      cases hs
      exact absurd rfl (hne o)
    | finish _ he htaken hopen =>
      -- a report is written into the delivery and leaves its stage as it is
      obtain ⟨stage, hs, hstage⟩ := hlate
      refine .inl ⟨stage, ?_, hstage⟩
      rw [← hs]
      simp only [deliveryStage?, deliveries_report t o he htaken hopen]
      exact (map_of_kept (fun d => by split <;> rfl) _).symm
  | cancelFetch f =>
    simp only [step?] at h
    split at h
    · cases h
      unfold cancelFetch at hlate
      split at hlate <;> exact .inl hlate
    · cases h
  | markFetch f woken =>
    simp only [step?] at h
    split at h
    · cases h
      exact .inl hlate
    · cases h

end BuildBroker.Rendezvous
