import BuildBroker.Proofs.Rendezvous.Sound

/-!
# What a Rendezvous Promises

Whatever calls meet at a rendezvous, in whatever order they take their turns and are given up, an
item goes to one fetch at most, and a delivery tells its caller what has become of its own item.

Main statements:
- `Later.of_play`: items, fetches that are over and deliveries that are over stay as they are.
- `took_of_moves`: a fetch takes nothing but what is in the slot.
- `told_iff_of_moves`, `told_iff_of_play`: what has been reported is what the holders of items have
  finished with.
- `handover`: the five promises.
-/

namespace BuildBroker.Rendezvous

variable {α : Type}

/-! ## §1 What Stays -/

/-- What was settled before a change is still so after it. -/
structure Later (r r' : Rendezvous α) : Prop where
  items : ∀ t x, r.item? t = some x → r'.item? t = some x
  fetches : ∀ f (s : FetchStage), s.IsOver → r.fetchStage? f = some s → r'.fetchStage? f = some s
  deliveries : ∀ t (s : DeliverStage), s.IsOver → r.deliveryStage? t = some s →
    r'.deliveryStage? t = some s

namespace Later

theorem refl (r : Rendezvous α) : r.Later r :=
  ⟨fun _ _ h => h, fun _ _ _ h => h, fun _ _ _ h => h⟩

theorem trans {a b c : Rendezvous α} (hab : a.Later b) (hbc : b.Later c) : a.Later c :=
  ⟨fun t x h => hbc.items t x (hab.items t x h),
    fun f s hs h => hbc.fetches f s hs (hab.fetches f s hs h),
    fun t s hs h => hbc.deliveries t s hs (hab.deliveries t s hs h)⟩

/-- A fetch keeps what it has taken. -/
theorem took {r r' : Rendezvous α} (h : r.Later r') {f t : Nat}
    (htook : r.fetchStage? f = some (.took t)) : r'.fetchStage? f = some (.took t) :=
  h.fetches f (.took t) trivial htook

/-- A delivery keeps what it has come to. -/
theorem result? {r r' : Rendezvous α} (h : r.Later r') {t : Nat} {res : DeliverResult}
    (hres : r.result? t = some res) : r'.result? t = some res := by
  unfold Rendezvous.result?
  rw [h.deliveries t (.returned res) trivial (deliveryStage?_of_result? hres)]

variable {r : Rendezvous α}

private theorem startDelivery (item : α) (deadline : Nat) :
    r.Later (r.startDelivery item deadline) := by
  have hold : ∀ {t : Nat} {d : Delivery α}, r.deliveries[t]? = some d →
      (r.startDelivery item deadline).deliveries[t]? = some d := by
    intro t d hd
    have hlt : t < r.deliveries.length := (List.getElem?_eq_some_iff.mp hd).1
    rw [deliveries_startDelivery, if_neg (Nat.ne_of_lt hlt), hd]
  refine ⟨?_, fun _ _ _ h => h, ?_⟩
  · intro t x hx
    obtain ⟨d, hd, rfl⟩ := Option.map_eq_some_iff.mp hx
    exact Option.map_eq_some_iff.mpr ⟨d, hold hd, rfl⟩
  · intro t s _ hs
    obtain ⟨d, hd, rfl⟩ := delivery_of_stage hs
    exact Option.map_eq_some_iff.mpr ⟨d, hold hd, rfl⟩

/-- A delivery that moves on was not over. -/
private theorem setDelivery {t : Nat} {d : Delivery α} (hd : r.deliveries[t]? = some d)
    (hopen : ¬d.stage.IsOver) (stage : DeliverStage) : r.Later (r.setDelivery t stage) := by
  refine ⟨?_, fun _ _ _ h => h, ?_⟩
  · intro u x hx
    rw [item?_setDelivery]
    exact hx
  · intro u s hover hs
    have hne : t ≠ u := by
      rintro rfl
      obtain ⟨d', hd', rfl⟩ := delivery_of_stage hs
      obtain rfl : d' = d := Option.some.inj (hd'.symm.trans hd)
      exact hopen hover
    rw [deliveryStage?_setDelivery, hs]
    simp [hne]

/-- Clearing the slot marks only deliveries that are not over. -/
private theorem clear : r.Later r.clear := by
  refine ⟨?_, fun _ _ _ h => h, ?_⟩
  · intro t x hx
    rw [item?_clear]
    exact hx
  · intro t s hover hs
    obtain ⟨d, hd, rfl⟩ := delivery_of_stage hs
    refine Option.map_eq_some_iff.mpr ⟨d.wake, ?_, ?_⟩
    · rw [deliveries_clear, hd, Option.map_some]
    · unfold Delivery.wake
      split
      · rename_i w hw
        rw [hw] at hover
        exact hover.elim
      · rfl

private theorem setPickup (t : Nat) (p : Pickup) : r.Later (r.setPickup t p) :=
  ⟨fun u x hx => by rw [item?_setPickup]; exact hx, fun _ _ _ h => h,
    fun u s _ hs => by rw [deliveryStage?_setPickup]; exact hs⟩

private theorem setFetch {f : Nat} {g : FetchStage} (hg : r.fetchStage? f = some g)
    (hopen : ¬g.IsOver) (stage : FetchStage) : r.Later (r.setFetch f stage) := by
  refine ⟨fun _ _ h => h, ?_, fun _ _ _ h => h⟩
  intro f' s hover hs
  have hne : f ≠ f' := by
    rintro rfl
    obtain rfl : s = g := Option.some.inj (hs.symm.trans hg)
    exact hopen hover
  rw [fetchStage?_setFetch, hs]
  simp [hne]

private theorem report {t : Nat} {d : Delivery α} (o : Outcome) (hd : r.deliveries[t]? = some d)
    (htaken : d.pickup = .taken) (hopen : d.outcome = none) : r.Later (r.report t o) := by
  refine ⟨?_, fun _ _ _ h => h, ?_⟩
  · intro u x hx
    simp only [item?, deliveries_report u o hd htaken hopen]
    rw [map_of_kept (fun d => by split <;> rfl)]
    exact hx
  · intro u s _ hs
    simp only [deliveryStage?, deliveries_report u o hd htaken hopen]
    rw [map_of_kept (fun d => by split <;> rfl)]
    exact hs

end Later

/-- Only deliveries that are not over move on. -/
theorem Delivery.Advances.not_over {slot : Option Nat} {t : Nat} {d : Delivery α}
    {stage : DeliverStage} (h : d.Advances slot t stage) : ¬d.stage.IsOver := by
  intro hover
  cases h with
  | park hs | mark hs | look hs | giveUp hs | pickedUp hs | lost hs | expire hs | late hs
  | drained hs | forgotten hs | dropParked hs | dropOffered hs | dropDraining hs =>
    rw [hs] at hover
    exact hover

theorem Later.of_moves {r r' : Rendezvous α} {s : Step α} (hm : Moves r s r') : r.Later r' := by
  cases hm with
  | deliver item deadline => exact .startDelivery item deadline
  | fetch deadline =>
    exact ⟨fun _ _ h => h, fun f _ hs h => (fetchStage?_startFetch_of_over r f deadline hs).mpr h,
      fun _ _ _ h => h⟩
  | advance _ hd ha => exact .setDelivery hd ha.not_over _
  | @place _ t d hd hs _ =>
    have hopen : ¬d.stage.IsOver := by rw [hs]; exact id
    have hlater := Later.setDelivery hd hopen .offered
    exact ⟨hlater.items, fun f _ hover h => (fetchStage?_wakeFetches_of_over _ f hover).mpr h,
      hlater.deliveries⟩
  | @withdraw _ t d _ _ hd _ hend =>
    have hopen : ¬d.stage.IsOver := by
      rcases hend with ⟨hs, _⟩ | ⟨hs, _⟩
      · rw [hs]; exact id
      · rw [hs]; exact id
    -- clearing the slot may mark the delivery itself, but does not end it
    have hcleared : r.Later (r.setPickup t .lost).clear :=
      (Later.setPickup t .lost).trans Later.clear
    have hd' : (r.setPickup t .lost).clear.deliveries[t]? =
        some ({ d with pickup := .lost } : Delivery α).wake := by
      rw [deliveries_clear, deliveries_setPickup, hd]
      simp
    have hopen' : ¬({ d with pickup := .lost } : Delivery α).wake.stage.IsOver := by
      unfold Delivery.wake
      split
      · exact id
      · exact hopen
    exact hcleared.trans (.setDelivery hd' hopen' _)
  | await _ _ hg hopen _ => exact .setFetch hg hopen _
  | @take _ f t hf _ =>
    have hcleared : r.Later (r.setPickup t .taken).clear :=
      (Later.setPickup t .taken).trans Later.clear
    have hopen : ¬FetchStage.looking.IsOver := id
    exact hcleared.trans (.setFetch (g := .looking) (by simpa using hf) hopen _)
  | finish _ hd htaken hopen => exact .report _ hd htaken hopen

theorem Later.of_play {r r' : Rendezvous α} {steps : List (Step α)}
    (h : r.play steps = some r') : r.Later r' :=
  Runs.run_induction (motive := fun _ mid => r.Later mid) (.refl r)
    (fun _ _ _ _ hmid hstep => hmid.trans (.of_moves (moves_of_step? hstep))) h

/-! ## §2 What Fetches Take -/

/-- What a fetch takes is in the slot, and nothing has been reported of it. -/
theorem took_of_moves {r r' : Rendezvous α} {s : Step α} (hm : Moves r s r') {f t : Nat}
    (htook : r'.fetchStage? f = some (.took t)) :
    r.fetchStage? f = some (.took t) ∨ r.slot = some t := by
  -- a fetch takes in one move alone, and it takes what lies in the slot
  cases hm with
  | deliver | advance | finish => exact .inl htook
  | fetch deadline =>
    exact .inl ((fetchStage?_startFetch_of_over r f deadline (s := .took t) trivial).mp htook)
  | place => exact .inl ((fetchStage?_wakeFetches_of_over _ f (s := .took t) trivial).mp htook)
  | withdraw =>
    simp only [fetchStage?_setDelivery, fetchStage?_clear, fetchStage?_setPickup] at htook
    exact .inl htook
  | @await _ f' g stage _ _ hg _ hstay =>
    rw [fetchStage?_setFetch] at htook
    obtain ⟨s', hs', heq⟩ := Option.map_eq_some_iff.mp htook
    split at heq
    · exact absurd heq (hstay t)
    · exact .inl (heq ▸ hs')
  | @take _ f' t' _ hslot =>
    rw [fetchStage?_setFetch] at htook
    obtain ⟨s', hs', heq⟩ := Option.map_eq_some_iff.mp htook
    split at heq
    · cases heq
      exact .inr hslot
    · exact .inl (heq ▸ hs')

/-- What fetches have taken changes only when a fetch takes its turn. -/
theorem took_iff_of_moves {r r' : Rendezvous α} {s : Step α} (hm : Moves r s r')
    (hs : ∀ now f, s ≠ .fetchTurn now f) (f t : Nat) :
    r'.fetchStage? f = some (.took t) ↔ r.fetchStage? f = some (.took t) := by
  cases hm with
  | deliver | advance | finish => exact Iff.rfl
  | fetch deadline => exact fetchStage?_startFetch_of_over r f deadline (s := .took t) trivial
  | place => exact fetchStage?_wakeFetches_of_over _ f (s := .took t) trivial
  | withdraw => simp only [fetchStage?_setDelivery, fetchStage?_clear, fetchStage?_setPickup]
  | await _ _ hg hover hstay => exact took_setFetch_of_await hg hover hstay f t
  | take => exact absurd rfl (hs _ _)

/-- The item of a delivery that is over can no longer be taken. -/
theorem took_of_play_of_over {r r' : Rendezvous α} {more : List (Step α)} (h : r.Sound)
    (hplay : r.play more = some r') {t : Nat} {s : DeliverStage}
    (hs : r.deliveryStage? t = some s) (hover : s.IsOver) :
    r'.slot ≠ some t ∧
      ∀ f, r'.fetchStage? f = some (.took t) → r.fetchStage? f = some (.took t) := by
  have hrun : r'.Sound ∧ r'.deliveryStage? t = some s ∧
      ∀ f, r'.fetchStage? f = some (.took t) → r.fetchStage? f = some (.took t) := by
    refine Runs.run_induction (motive := fun _ mid => mid.Sound ∧ mid.deliveryStage? t = some s ∧
      ∀ f, mid.fetchStage? f = some (.took t) → r.fetchStage? f = some (.took t))
      ⟨h, hs, fun _ htook => htook⟩ ?_ hplay
    -- the delivery stays over, so its item does not come back into the slot
    rintro - mid x mid' ⟨hsound, hstage, hback⟩ hstep
    have hm := moves_of_step? hstep
    refine ⟨hsound.of_moves hm, (Later.of_moves hm).deliveries t s hover hstage, ?_⟩
    intro f htook
    rcases took_of_moves hm htook with hold | hslot
    · exact hback f hold
    · exact absurd hslot (hsound.slot_ne_of_over hstage hover)
  exact ⟨hrun.1.slot_ne_of_over hrun.2.1 hover, hrun.2.2⟩

/-! ## §3 What Is Reported -/

/-- A fetch has an item of which it has been reported how it was left. -/
def Told (r : Rendezvous α) (f : Nat) (o : Outcome) : Prop :=
  ∃ t, r.fetchStage? f = some (.took t) ∧ r.outcome? t = some o

/-- Reports change only when someone is done with an item. -/
theorem outcome?_of_moves {r r' : Rendezvous α} {s : Step α} (hm : Moves r s r')
    (hs : ∀ f o, s ≠ .finish f o) (t : Nat) : r'.outcome? t = r.outcome? t := by
  cases hm with
  | deliver item deadline => exact outcome?_startDelivery r t item deadline
  | fetch | await => rfl
  | advance => exact outcome?_setDelivery r _ t _
  | place => exact outcome?_setDelivery r _ t .offered
  | withdraw => rw [outcome?_setDelivery, outcome?_clear, outcome?_setPickup]
  | take => rw [outcome?_setFetch, outcome?_clear, outcome?_setPickup]
  | finish => exact absurd rfl (hs _ _)

/-- Where nobody is done with an item, the same has been reported as before. -/
private theorem told_iff_of_not_finish {r r' : Rendezvous α} {s : Step α} (h : r.Sound)
    (hm : Moves r s r') (hs : ∀ f o, s ≠ .finish f o) (f : Nat) (o : Outcome) :
    r'.Told f o ↔ r.Told f o := by
  constructor
  · rintro ⟨t, htook, ho⟩
    rw [outcome?_of_moves hm hs] at ho
    rcases took_of_moves hm htook with hold | hslot
    · exact ⟨t, hold, ho⟩
    · -- nothing has been reported of an item that is only now taken
      rw [h.outcome?_of_slot hslot] at ho
      cases ho
  · rintro ⟨t, htook, ho⟩
    refine ⟨t, (Later.of_moves hm).took htook, ?_⟩
    rw [outcome?_of_moves hm hs]
    exact ho

private theorem told_iff_of_finish {r : Rendezvous α} {f f' t : Nat} {d : Delivery α}
    {o o' : Outcome} (h : r.Sound) (htook' : r.fetchStage? f' = some (.took t))
    (hd : r.deliveries[t]? = some d) (htaken : d.pickup = .taken) (hopen : d.outcome = none) :
    (r.report t o').Told f o ↔ r.Told f o ∨ f' = f ∧ o' = o := by
  have houtcome := fun u => outcome?_report u o' hd htaken hopen
  constructor
  · rintro ⟨u, htook, ho⟩
    rw [houtcome] at ho
    split at ho
    · rename_i htu
      subst htu
      exact .inr ⟨h.once f' f t htook' htook, Option.some.inj ho⟩
    · exact .inl ⟨u, htook, ho⟩
  · rintro (⟨u, htook, ho⟩ | ⟨rfl, rfl⟩)
    · have hne : t ≠ u := by
        rintro rfl
        rw [outcome?_of_delivery hd, hopen] at ho
        cases ho
      exact ⟨u, htook, by rw [houtcome, if_neg hne]; exact ho⟩
    · exact ⟨t, htook', by rw [houtcome, if_pos rfl]⟩

/-- A change adds to the reports what the step finishes with, and nothing else. -/
theorem told_iff_of_moves {r r' : Rendezvous α} {s : Step α} (h : r.Sound) (hm : Moves r s r')
    (f : Nat) (o : Outcome) : r'.Told f o ↔ r.Told f o ∨ s = .finish f o := by
  by_cases hs : ∃ f' o', s = .finish f' o'
  · obtain ⟨f', o', rfl⟩ := hs
    cases hm with
    | finish htook hd htaken hopen =>
      rw [told_iff_of_finish h htook hd htaken hopen, Step.finish.injEq]
    | advance hs | withdraw hs => cases hs
    | await hs hne =>
      cases hs
      exact absurd rfl (hne o')
  · have hne : ∀ f' o', s ≠ .finish f' o' := fun f' o' heq => hs ⟨f', o', heq⟩
    rw [told_iff_of_not_finish h hm hne]
    exact (or_iff_left (hne f o)).symm

/-- What has been reported by the end of a run is what its steps have finished with. -/
theorem told_iff_of_play {r : Rendezvous α} {steps : List (Step α)}
    (h : empty.play steps = some r) (f : Nat) (o : Outcome) :
    r.Told f o ↔ Step.finish f o ∈ steps := by
  have hrun : r.Sound ∧ (r.Told f o ↔ Step.finish f o ∈ steps) := by
    refine Runs.run_induction
      (motive := fun xs mid => mid.Sound ∧ (mid.Told f o ↔ Step.finish f o ∈ xs))
      ⟨sound_empty, by simp [Told, empty, fetchStage?]⟩ ?_ h
    rintro xs mid x mid' ⟨hsound, hiff⟩ hstep
    have hm := moves_of_step? hstep
    refine ⟨hsound.of_moves hm, ?_⟩
    rw [told_iff_of_moves hsound hm, hiff, List.mem_append, List.mem_singleton]
    exact or_congr_right eq_comm
  exact hrun.2

/-! ## §4 The Promises -/

/-- A step of a fetch leaves the slot and the deliveries alone, or it has taken something. -/
theorem slot_eq_of_moves {r r' : Rendezvous α} {s : Step α} (hm : Moves r s r') {f : Nat}
    (hs : s.fetch? = some f) :
    (∃ t, r'.fetchStage? f = some (.took t)) ∨
      r'.slot = r.slot ∧ r'.deliveries = r.deliveries := by
  cases hm with
  | deliver | fetch | place => cases hs
  | advance hnone | withdraw hnone =>
    rw [hs] at hnone
    cases hnone
  | await => exact .inr ⟨rfl, rfl⟩
  | @take _ f' t hf _ =>
    obtain rfl : f' = f := Option.some.inj hs
    exact .inl ⟨t, by simp [hf]⟩
  | @finish f' t d o htook _ _ _ =>
    obtain rfl : f' = f := Option.some.inj hs
    exact .inl ⟨t, htook⟩

/-- **Handover.** Whatever happens at a rendezvous up to some time, and whatever happens later: an
item that a fetch has taken is that fetch's alone; a delivery that ends as drained was taken by a
fetch that has been finished with, as it says; the item of a delivery that ends as not fetched is
never taken; when a delivery has ended its item is not in the slot, nor is it taken later; and a
fetch that ends with nothing has taken nothing. -/
theorem handover {steps more : List (Step α)} {r r' : Rendezvous α}
    (h : empty.play steps = some r) (hmore : r.play more = some r') :
    (∀ f t, r.fetchStage? f = some (.took t) →
      ∀ g, r'.fetchStage? g = some (.took t) ↔ g = f) ∧
    (∀ t o, r.result? t = some (.drained o) →
      ∃ f, r.fetchStage? f = some (.took t) ∧ ∀ o', Step.finish f o' ∈ steps ↔ o' = o) ∧
    (∀ t, r.result? t = some .notFetched → ∀ f, r'.fetchStage? f ≠ some (.took t)) ∧
    (∀ t s, r.deliveryStage? t = some s → s.IsOver →
      r'.slot ≠ some t ∧
        ∀ f, r'.fetchStage? f = some (.took t) → r.fetchStage? f = some (.took t)) ∧
    (∀ f s, r.fetchStage? f = some s → s = .timedOut ∨ s = .cancelled →
      (∀ t, r'.fetchStage? f ≠ some (.took t)) ∧
        ∀ before x after r₀ r₁, steps = before ++ x :: after → x.fetch? = some f →
          empty.play before = some r₀ → r₀.step? x = some r₁ →
          r₁.slot = r₀.slot ∧ r₁.deliveries = r₀.deliveries) := by
  have hsound : r.Sound := sound_empty.of_play h
  have hsound' : r'.Sound := hsound.of_play hmore
  have hlater : r.Later r' := .of_play hmore
  refine ⟨?_, ?_, ?_, ?_, ?_⟩
  · intro f t htook g
    have hkept := hlater.took htook
    exact ⟨fun hg => hsound'.once g f t hg hkept, fun hg => hg ▸ hkept⟩
  · intro t o hres
    -- a delivery that ends as drained has noted that its item was taken, and how it was left
    obtain ⟨d, hd, hs⟩ := delivery_of_stage (deliveryStage?_of_result? hres)
    have hstage := (hsound.consistent t d hd).2
    simp only [hs] at hstage
    obtain ⟨_, htaken, ho⟩ := hstage
    obtain ⟨f, hf⟩ := (hsound.taken t).mp (by rw [pickup?_of_delivery hd, htaken])
    refine ⟨f, hf, ?_⟩
    intro o'
    rw [← told_iff_of_play h]
    constructor
    · rintro ⟨u, hu, hou⟩
      obtain rfl : t = u := by
        rw [hf] at hu
        cases hu
        rfl
      rw [outcome?_of_delivery hd, ho] at hou
      exact (Option.some.inj hou).symm
    · rintro rfl
      exact ⟨t, hf, by rw [outcome?_of_delivery hd, ho]⟩
  · intro t hres f hf
    have hs := deliveryStage?_of_result? hres
    -- a fetch that had the item later would have had it when the delivery ended
    have hold := (took_of_play_of_over hsound hmore hs trivial).2 f hf
    obtain ⟨d, hd, hstage⟩ := delivery_of_stage hs
    have hp := (hsound.taken t).mpr ⟨f, hold⟩
    rw [pickup?_of_delivery hd] at hp
    have hconsistent := (hsound.consistent t d hd).2
    simp only [hstage] at hconsistent
    exact hconsistent.2 (Option.some.inj hp)
  · intro t s hs hover
    exact took_of_play_of_over hsound hmore hs hover
  · intro f s hs hend
    have hover : s.IsOver := by rcases hend with rfl | rfl <;> trivial
    have hnot : ∀ t, some s ≠ some (FetchStage.took t) := by
      rintro t ⟨⟩
      rcases hend with hend | hend <;> cases hend
    refine ⟨?_, ?_⟩
    · intro t htook
      rw [hlater.fetches f s hover hs] at htook
      exact hnot t htook
    · rintro before x after r₀ r₁ rfl hx hbefore hstep
      rcases slot_eq_of_moves (moves_of_step? hstep) hx with ⟨t, htook⟩ | hsame
      · -- what the fetch has taken at this step it still has at the end
        obtain ⟨mid, hmid, hrest⟩ := Runs.run_append.mp h
        obtain rfl : r₀ = mid := Option.some.inj (hbefore.symm.trans hmid)
        have hafter : r₁.play after = some r := by
          rw [List.foldlM_cons, hstep] at hrest
          exact hrest
        have hend := (Later.of_play hafter).took htook
        rw [hs] at hend
        exact absurd hend (hnot t)
      · exact hsame

/-- Two deliveries with one deadline: the first item is taken before its delivery looks again at the
deadline, the second is withdrawn then, and the fetch that waited for it is given up. -/
def lastMoment : List (Step Nat) :=
  [.deliver 7 10, .deliver 8 10, .fetch 5, .fetch 20, .deliveryTurn 0 0, .deliveryTurn 0 1,
    .fetchTurn 0 0, .fetchTurn 0 1, .deliveryTurn 10 0, .finish 0 .completed, .deliveryTurn 10 0,
    .deliveryTurn 10 1, .deliveryTurn 10 1, .deliveryTurn 10 1, .deliveryTurn 10 1, .cancelFetch 1]

/-- Where everything stands at the end of it. -/
def lastMomentEnd : Rendezvous Nat :=
  ⟨none,
    [⟨7, 10, .returned (.drained .completed), .taken, some .completed⟩,
      ⟨8, 10, .returned .notFetched, .lost, none⟩],
    [⟨5, .took 0⟩, ⟨20, .cancelled⟩]⟩

/-- The first delivery has told the truth, the second item is never taken, also not by a fetch that
comes later, and the fetch that was given up left the slot alone when it looked at it. -/
theorem handover_lastMoment :
    empty.play lastMoment = some lastMomentEnd ∧
    (∃ r', lastMomentEnd.play [.fetch 30, .fetchTurn 20 2] = some r' ∧
      (∀ g, r'.fetchStage? g = some (.took 0) ↔ g = 0) ∧
      ∀ f, r'.fetchStage? f ≠ some (.took 1)) ∧
    (∃ f, lastMomentEnd.fetchStage? f = some (.took 0) ∧
      ∀ o, Step.finish f o ∈ lastMoment ↔ o = .completed) ∧
    ∀ r₀ r₁, empty.play (lastMoment.take 7) = some r₀ → r₀.step? (.fetchTurn 0 1) = some r₁ →
      r₁.slot = r₀.slot ∧ r₁.deliveries = r₀.deliveries := by
  have hplay : empty.play lastMoment = some lastMomentEnd := by decide
  have hmore : ∃ r', lastMomentEnd.play [.fetch 30, .fetchTurn 20 2] = some r' :=
    Option.isSome_iff_exists.mp (by decide)
  obtain ⟨r', hmore⟩ := hmore
  have htook : lastMomentEnd.fetchStage? 0 = some (.took 0) := by decide
  have hdrained : lastMomentEnd.result? 0 = some (.drained .completed) := by decide
  have hlost : lastMomentEnd.result? 1 = some .notFetched := by decide
  have hgivenUp : lastMomentEnd.fetchStage? 1 = some .cancelled := by decide
  have hsplit : lastMoment = lastMoment.take 7 ++ .fetchTurn 0 1 :: lastMoment.drop 8 := by decide
  obtain ⟨honce, htrue, hnever, _, hnothing⟩ := handover hplay hmore
  refine ⟨hplay, ⟨r', hmore, honce 0 0 htook, hnever 1 hlost⟩, htrue 0 .completed hdrained, ?_⟩
  intro r₀ r₁ hbefore hstep
  exact (hnothing 1 .cancelled hgivenUp (.inr rfl)).2 _ _ _ r₀ r₁ hsplit rfl hbefore hstep

end BuildBroker.Rendezvous
