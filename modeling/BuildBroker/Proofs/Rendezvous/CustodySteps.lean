import BuildBroker.Proofs.Rendezvous.Custody
import BuildBroker.Proofs.Rendezvous.Turns

/-!
# Custody and the Rendezvous Run Alike

A custody that keeps every parcel and every line for itself takes the same steps as the rendezvous
that it is read off, and none else, as long as the counter of tickets has not run through.

Main statements:
- `custody_deliveryTurn?`, `custody_fetchTurn?`: the same turns.
- `custody_step?`: the same steps.
- `items_of_play`: the items of the deliveries are those that were handed in.
- `custody_play`: the same runs.
-/

namespace BuildBroker.Rendezvous

variable {α : Type}

/-! ## §1 Turns -/

section Turns

variable {r : Rendezvous α} {t f : Nat} {d : Delivery α} {g : Fetch}

/-- What is in each hand after one delivery has gone on. -/
theorem custody_go {stage : DeliverStage} {change' : Sending α → Sending α}
    (hd : r.deliveries[t]? = some d) (hs : ¬d.stage.IsOver) (hgoing : ¬stage.IsOver)
    (hhand : change' (d.inHand t) = { d.inHand t with
      stage
      parcel := (({ d with stage } : Delivery α).inHand t).parcel
      armed := (({ d with stage } : Delivery α).inHand t).armed }) :
    (r.setDelivery t stage).custody = r.custody.modifySending t change' := by
  refine custody_setDelivery hd ?_
  -- apart from the lines, what it has in hand depends on the stage alone
  obtain ⟨hpicked, hdrained⟩ := Delivery.lines_of_going hs hgoing
  rw [hhand]
  simp only [Delivery.inHand, hpicked, hdrained]

theorem custody_place (hd : r.deliveries[t]? = some d) (hs : d.stage = .looking) :
    ({ r.setDelivery t .offered with slot := some t }).wakeFetches.custody =
      ({ r.custody with slot := (d.inHand t).parcel }.modifySending t fun e =>
        { e with stage := .offered, parcel := none, armed := true }).wakeTakings := by
  have hgo : (r.setDelivery t .offered).custody = r.custody.modifySending t fun e =>
      { e with stage := .offered, parcel := none, armed := true } :=
    custody_go hd (hs ▸ id) id (by simp [Delivery.inHand])
  have hparcel : (r.setDelivery t .offered).parcel? t = (d.inHand t).parcel := by
    rw [parcel?_congr (fun u => item?_setDelivery r t u .offered), parcel?_of_delivery hd]
    simp only [Delivery.inHand, hs]
  have hslot : ({ r.setDelivery t .offered with slot := some t } : Rendezvous α).custody =
      { (r.setDelivery t .offered).custody with
        slot := (r.setDelivery t .offered).parcel? t } := rfl
  rw [custody_wakeFetches, hslot, hgo, hparcel]
  rfl

/-- Custody takes the same turns of deliveries. -/
theorem custody_deliveryTurn? (h : r.Sound) (hfew : r.deliveries.length ≤ UInt64.size)
    (now t : Nat) : r.custody.deliveryTurn? now t = (r.deliveryTurn? now t).map custody := by
  unfold Custody.deliveryTurn? deliveryTurn?
  cases hd : r.deliveries[t]? with
  | none => simp [sendings_custody, hd]
  | some d =>
    have ht : t < r.deliveries.length := (List.getElem?_eq_some_iff.mp hd).1
    have hdeadline : (d.inHand t).deadline = d.deadline := rfl
    simp only [sending_of_delivery hd, Delivery.stage_inHand, hdeadline]
    cases hs : d.stage with
    | looking =>
      have hparcel : (d.inHand t).parcel = some ⟨.ofNat t, d.item, t⟩ := by
        simp [Delivery.inHand, hs]
      cases hslot : r.slot with
      | none =>
        simp only [slot_custody_of_empty hslot, if_true, Option.map_some, custody_place hd hs]
      | some u =>
        obtain ⟨x, hfull, -⟩ := h.parcel_of_slot hslot
        have hgo : (r.setDelivery t (.parked false)).custody = r.custody.modifySending t fun e =>
            { e with stage := .parked false, parcel := some ⟨.ofNat t, d.item, t⟩ } :=
          custody_go hd (hs ▸ id) id (by simp [Delivery.inHand, hs])
        simp only [hfull, hparcel, reduceCtorEq, if_false, Option.map_some, hgo]
        rw [← hfull]
    | parked woken =>
      cases woken with
      | true =>
        exact congrArg some (custody_go hd (hs ▸ id) id (by simp [Delivery.inHand, hs])).symm
      | false =>
        simp only
        split
        · exact congrArg some (custody_end_of_parked h hd hs trivial)
        · rfl
    | offered =>
      simp only
      cases hp : d.pickup with
      | taken =>
        have hpicked : (d.inHand t).picked = .said () := Delivery.pickedLine_of_taken hp
        simp only [hpicked]
        exact congrArg some (custody_go hd (hs ▸ id) id (by simp [Delivery.inHand, hs])).symm
      | lost =>
        -- nobody else withdraws its item, so no delivery hears of a loss
        have hstage := (h.consistent t d hd).2
        simp [hs, hp] at hstage
      | awaited =>
        have hpicked : (d.inHand t).picked = .silent :=
          Delivery.pickedLine_of_awaited (hs ▸ id) hp
        simp only [hpicked]
        split
        · exact congrArg some (custody_go hd (hs ▸ id) id (by simp [Delivery.inHand, hs])).symm
        · rfl
    | expired =>
      simp only [Delivery.ticket_inHand, custody_withdraw h hfew ht, decide_eq_true_eq]
      split
      · obtain ⟨p, hp, hd'⟩ := h.delivery_withdraw hd (.inr hs)
        exact congrArg some (custody_end hd' (.inl hs) hp trivial)
      · rename_i hslot
        rw [withdraw, if_neg hslot]
        exact congrArg some (custody_go hd (hs ▸ id) id (by simp [Delivery.inHand, hs])).symm
    | draining =>
      have hp : d.pickup = .taken := by
        have hstage := (h.consistent t d hd).2
        simp only [hs] at hstage
        exact hstage.2
      have hnot : d.pickup ≠ .awaited := by simp [hp]
      cases ho : d.outcome with
      | some o =>
        have hdrained : (d.inHand t).drained = .said o := Delivery.drainedLine_of_outcome ho
        simp only [hdrained]
        exact congrArg some (custody_end hd (.inr hs) hnot trivial)
      | none =>
        have hdrained : (d.inHand t).drained = .silent :=
          Delivery.drainedLine_of_going (hs ▸ id) (by simp [hp]) ho
        simp only [hdrained, hp, Option.map_none]
    | returned | cancelled => rfl

/-- A fetch that takes the item in the slot has its parcel in hand. -/
theorem custody_take (h : r.Sound) (hslot : r.slot = some t) (hg : r.fetches[f]? = some g)
    (hs : g.stage = .looking) {x : α} (hp : r.parcel? t = some ⟨.ofNat t, x, t⟩) :
    (((r.setPickup t .taken).clear).setFetch f (.took t)).custody =
      ({ r.custody with slot := none }.wakeSendings.modifySending t Sending.pick).modifyTaking f
        (Taking.take ⟨.ofNat t, x, t⟩) := by
  obtain ⟨d, hd, hstage, hawaited, ho⟩ := h.delivery_of_slot hslot
  have hpicked := Delivery.inHand_taken t (DeliverStage.going_of_placed hstage) hawaited ho
  have hsame : (r.setPickup t .taken).clear.inHand = r.inHand :=
    inHand_congr (fun u => by simp) fun u => by simp
  have hhand : (r.setPickup t .taken).clear.inHand { g with stage := .took t } =
      ((r.setPickup t .taken).clear.inHand g).take ⟨.ofNat t, x, t⟩ := by
    rw [hsame]
    simp only [inHand, Taking.take, hp, hs, h.outcome?_of_slot hslot, Option.isNone_none]
  have hg' : (r.setPickup t .taken).clear.fetches[f]? = some g := hg
  rw [custody_setFetch hg' hhand, custody_clear_setPickup hd Sending.wake_pick hpicked]

/-- What is in each hand after a fetch has gone on waiting, or has given up. -/
theorem custody_await {stage : FetchStage} (hg : r.fetches[f]? = some g)
    (hs : ∀ t, g.stage ≠ .took t) (hstay : ∀ t, stage ≠ .took t) :
    (r.setFetch f stage).custody = r.custody.modifyTaking f fun g => { g with stage } := by
  refine custody_setFetch hg ?_
  obtain ⟨deadline, stage'⟩ := g
  cases stage' with
  | took t => exact absurd rfl (hs t)
  | looking | parked | timedOut | cancelled =>
    cases stage with
    | took t => exact absurd rfl (hstay t)
    | looking | parked | timedOut | cancelled => rfl

/-- Custody takes the same turns of fetches. -/
theorem custody_fetchTurn? (h : r.Sound) (now f : Nat) :
    r.custody.fetchTurn? now f = (r.fetchTurn? now f).map custody := by
  unfold Custody.fetchTurn? fetchTurn?
  cases hg : r.fetches[f]? with
  | none => simp [takings_custody, hg]
  | some g =>
    simp only [taking_of_fetch hg, stage_inHand, deadline_inHand]
    cases hs : g.stage with
    | looking =>
      cases hslot : r.slot with
      | none =>
        simp only [slot_custody_of_empty hslot]
        exact congrArg some (custody_await hg (by simp [hs]) (by simp)).symm
      | some t =>
        -- the parcel in the slot is the item of the delivery that the slot names
        obtain ⟨x, hfull, hparcel⟩ := h.parcel_of_slot hslot
        simp only [hfull]
        exact congrArg some (custody_take h hslot hg hs hparcel).symm
    -- a fetch that is woken looks again; one that is not waits for its deadline
    | parked woken =>
      cases woken with
      | true => exact congrArg some (custody_await hg (by simp [hs]) (by simp)).symm
      | false =>
        simp only
        split
        · exact congrArg some (custody_await hg (by simp [hs]) (by simp)).symm
        · rfl
    | took | timedOut | cancelled => rfl

end Turns

/-! ## §2 Steps -/

section Steps

variable {r : Rendezvous α}

/-- Custody lets the same deliveries be given up. -/
theorem custody_cancelDelivery? (h : r.Sound) (hfew : r.deliveries.length ≤ UInt64.size) (t : Nat) :
    r.custody.cancelDelivery? t = (r.step? (.cancelDelivery t)).map custody := by
  cases hd : r.deliveries[t]? with
  | none =>
    simp [Custody.cancelDelivery?, sendings_custody, hd, step?, deliveryWaits, deliveryStage?]
  | some d =>
    have hstage : r.deliveryStage? t = some d.stage := by
      simp only [deliveryStage?, hd, Option.map_some]
    simp only [Custody.cancelDelivery?, sending_of_delivery hd, Option.map_some,
      Delivery.stage_inHand, step?, deliveryWaits, cancelDelivery, hstage]
    cases hs : d.stage with
    | parked woken => exact congrArg some (custody_end_of_parked h hd hs trivial)
    | offered => exact congrArg some (custody_end_of_offered h hfew hd hs trivial)
    | draining =>
      have hp := (h.consistent t d hd).2
      simp only [hs] at hp
      exact congrArg some (custody_end hd (.inr hs) (by simp [hp.2]) trivial)
    | looking | expired | returned | cancelled => rfl

/-- Custody lets the same deliveries be marked. -/
theorem custody_markDelivery (t : Nat) (woken : Bool) :
    r.custody.step? (.markDelivery t woken) = (r.step? (.markDelivery t woken)).map custody := by
  cases hd : r.deliveries[t]? with
  | none => simp [Custody.step?, sendings_custody, hd, step?, deliveryStage?]
  | some d =>
    have hstage : r.deliveryStage? t = some d.stage := by
      simp only [deliveryStage?, hd, Option.map_some]
    simp only [Custody.step?, sending_of_delivery hd, Option.map_some, Delivery.stage_inHand,
      step?, hstage]
    cases hs : d.stage with
    | parked =>
      exact congrArg some (custody_go hd (hs ▸ id) id (by simp [Delivery.inHand, hs])).symm
    | looking | offered | expired | draining | returned | cancelled => rfl

/-- Custody lets the same fetches move on while they wait. -/
theorem custody_moveParked? (f : Nat) {stage : FetchStage} (hstay : ∀ t, stage ≠ .took t) :
    r.custody.moveParked? f stage =
      (match r.fetchStage? f with
        | some (.parked _) => some (r.setFetch f stage)
        | _ => none).map custody := by
  cases hg : r.fetches[f]? with
  | none => simp [Custody.moveParked?, takings_custody, hg, fetchStage?]
  | some g =>
    have hstage : r.fetchStage? f = some g.stage := by simp only [fetchStage?, hg, Option.map_some]
    simp only [Custody.moveParked?, taking_of_fetch hg, Option.map_some, stage_inHand, hstage]
    cases hs : g.stage with
    | parked woken => exact congrArg some (custody_await hg (by simp [hs]) hstay).symm
    | looking | took | timedOut | cancelled => rfl

/-- What a fetch has in hand comes from a delivery that knows of it. -/
theorem Sound.pickup?_of_took (h : r.Sound) {f t : Nat} {g : Fetch} (hg : r.fetches[f]? = some g)
    (hs : g.stage = .took t) : r.pickup? t = some .taken :=
  (h.taken t).mpr ⟨f, by simp only [fetchStage?, hg, Option.map_some, hs]⟩

/-- Custody starts the same deliveries. -/
theorem custody_startDelivery (h : r.Sound) (item : α) (deadline : Nat) :
    r.custody.startDelivery item deadline = (r.startDelivery item deadline).custody := by
  have hparcel : ∀ t, r.pickup? t ≠ none →
      (r.startDelivery item deadline).parcel? t = r.parcel? t := by
    intro t hp
    -- the new delivery takes a number that nobody knows yet
    have ht : t ≠ r.deliveries.length := by
      rintro rfl
      simp [pickup?] at hp
    simp only [parcel?, item?, deliveries_startDelivery, if_neg ht]
  refine Custody.ext ?_ ?_ ?_ ?_
  · simp only [custody, Custody.startDelivery, slot_startDelivery]
    refine Option.bind_congr fun t ht => ?_
    exact (hparcel t (by simp [h.placed t ht])).symm
  · simp [custody, Custody.startDelivery, startDelivery]
  · simp [custody, Custody.startDelivery, startDelivery, List.mapIdx_concat, Delivery.inHand,
      Delivery.pickedLine, Delivery.drainedLine, Delivery.isDropped]
  · refine List.map_congr_left fun g hg => ?_
    obtain ⟨f, hf⟩ := List.mem_iff_getElem?.mp hg
    obtain ⟨fetchDeadline, stage⟩ := g
    cases stage with
    | took t =>
      have htaken := h.pickup?_of_took hf rfl
      simp only [inHand, hparcel t (by simp [htaken]), outcome?_startDelivery]
    | looking | parked | timedOut | cancelled => rfl

/-- Custody starts the same fetches. -/
theorem custody_startFetch (r : Rendezvous α) (deadline : Nat) :
    r.custody.startFetch deadline = (r.startFetch deadline).custody := by
  refine Custody.ext rfl rfl rfl ?_
  simp only [custody, Custody.startFetch, startFetch, List.map_append]
  rfl

section Report

variable {f t : Nat} {d : Delivery α} (o : Outcome)

theorem item?_report (u : Nat) : (r.report t o).item? u = r.item? u := by
  simp only [item?, Rendezvous.report, List.getElem?_modify, Option.map_eq_map]
  refine map_of_kept (fun d => ?_) _
  split
  · split <;> rfl
  · rfl

/-- What a fetch has in hand after one of them has reported: only that one has taken the item. -/
theorem inHand_report (h : r.Sound) (hf : r.fetchStage? f = some (.took t))
    (hd : r.deliveries[t]? = some d) (htaken : d.pickup = .taken) (hopen : d.outcome = none)
    {e : Nat} {g : Fetch} (he : r.fetches[e]? = some g) :
    (r.report t o).inHand g = if f = e then { r.inHand g with held := false } else r.inHand g := by
  have hstage : r.fetchStage? e = some g.stage := by simp only [fetchStage?, he, Option.map_some]
  have hparcel : (r.report t o).parcel? = r.parcel? := parcel?_congr (item?_report o)
  obtain ⟨deadline, stage⟩ := g
  cases stage with
  | took u =>
    have hout := outcome?_report u o hd htaken hopen
    by_cases hfe : f = e
    · subst hfe
      -- the fetch that reports holds the item of its own delivery
      obtain rfl : t = u := by
        rw [hf] at hstage
        exact FetchStage.took.inj (Option.some.inj hstage)
      simp only [inHand, hparcel, hout, if_true, Option.isNone_some]
    -- and no other fetch holds that one
    · have htu : t ≠ u := by
        rintro rfl
        exact hfe (h.once f e t hf hstage)
      simp only [inHand, hparcel, hout, if_neg htu, if_neg hfe]
  | looking | parked | timedOut | cancelled =>
    have hfe : f ≠ e := by
      rintro rfl
      rw [hf] at hstage
      cases hstage
    simp only [inHand, if_neg hfe]

/-- What is in each hand after a fetch has reported how it left an item. -/
theorem custody_report (h : r.Sound) (hf : r.fetchStage? f = some (.took t))
    (hd : r.deliveries[t]? = some d) (htaken : d.pickup = .taken) (hopen : d.outcome = none) :
    (r.report t o).custody = (r.custody.modifySending t (Sending.report o)).modifyTaking f
      fun g => { g with held := false } := by
  have hlookup := fun u => deliveries_report u o hd htaken hopen
  -- the delivery hears of the outcome on the line of its own parcel
  have hhand : ({ d with outcome := some o } : Delivery α).inHand t = (d.inHand t).report o := by
    simp [Delivery.inHand, Delivery.pickedLine, Delivery.drainedLine, Delivery.isDropped, htaken,
      hopen, Sending.report, Line.say]
  refine Custody.ext ?_ ?_ (sendings_of_change hd hlookup hhand) ?_
  · simp only [custody, parcel?_congr (item?_report o)]
    rfl
  · simp [custody, Rendezvous.report, Custody.modifySending, Custody.modifyTaking]
  · refine List.ext_getElem? fun e => ?_
    have hfetches : (r.report t o).fetches[e]? = r.fetches[e]? := rfl
    simp only [takings_custody, hfetches, Custody.modifyTaking, Custody.modifySending,
      List.getElem?_modify, Option.map_eq_map]
    cases he : r.fetches[e]? with
    | none => rfl
    | some g => exact congrArg some (inHand_report o h hf hd htaken hopen he)

end Report

/-- Custody reports the same. -/
theorem custody_finish? (h : r.Sound) (f : Nat) (o : Outcome) :
    r.custody.finish? f o = (r.step? (.finish f o)).map custody := by
  cases hg : r.fetches[f]? with
  | none => simp [Custody.finish?, takings_custody, hg, step?, fetchStage?]
  | some g =>
    have hstage : r.fetchStage? f = some g.stage := by simp only [fetchStage?, hg, Option.map_some]
    simp only [Custody.finish?, step?, taking_of_fetch hg, hstage]
    obtain ⟨deadline, stage⟩ := g
    cases stage with
    | took t =>
      obtain ⟨d, hd, htaken⟩ := Option.map_eq_some_iff.mp (h.pickup?_of_took hg rfl)
      simp only [inHand, parcel?_of_delivery hd, outcome?_of_delivery hd, isHeld, hd, htaken]
      cases ho : d.outcome with
      | none => exact congrArg some (custody_report o h hstage hd htaken ho).symm
      | some o' => rfl
    | looking | parked | timedOut | cancelled => rfl

/-- As long as the counter has not run through, custody takes the same steps as the rendezvous. -/
theorem custody_step? (h : r.Sound) (hfew : r.deliveries.length ≤ UInt64.size) (s : Step α) :
    r.custody.step? s = (r.step? s).map custody := by
  cases s with
  | deliver item deadline => exact congrArg some (custody_startDelivery h item deadline)
  | fetch deadline => exact congrArg some (custody_startFetch r deadline)
  | deliveryTurn now t => exact custody_deliveryTurn? h hfew now t
  | fetchTurn now f => exact custody_fetchTurn? h now f
  | cancelDelivery t => exact custody_cancelDelivery? h hfew t
  | cancelFetch f =>
    have hwait : r.step? (.cancelFetch f) = match r.fetchStage? f with
        | some (.parked _) => some (r.setFetch f .cancelled)
        | _ => none := by
      cases hf : r.fetchStage? f with
      | none => simp [step?, fetchWaits, hf]
      | some stage => cases stage <;> simp [step?, fetchWaits, cancelFetch, hf]
    rw [hwait]
    exact custody_moveParked? f (by simp)
  | finish f o => exact custody_finish? h f o
  | markDelivery t woken => exact custody_markDelivery t woken
  | markFetch f woken => exact custody_moveParked? f (by simp)

end Steps

/-! ## §3 Runs -/

/-- The item that a step hands in. -/
def Step.item? : Step α → Option α
  | .deliver item _ => some item
  | _ => none

section Items

variable {r r' : Rendezvous α} {t : Nat}

theorem items_setDelivery (stage : DeliverStage) :
    (r.setDelivery t stage).deliveries.map Delivery.item = r.deliveries.map Delivery.item :=
  map_modify_of_kept (by intro d; rfl) r.deliveries t

theorem items_setPickup (p : Pickup) :
    (r.setPickup t p).deliveries.map Delivery.item = r.deliveries.map Delivery.item :=
  map_modify_of_kept (by intro d; rfl) r.deliveries t

theorem items_clear (r : Rendezvous α) :
    r.clear.deliveries.map Delivery.item = r.deliveries.map Delivery.item := by
  simp only [clear, wakeDeliveries, List.map_map]
  refine List.map_congr_left fun d _ => ?_
  obtain ⟨s, hs⟩ := d.wake_eq
  simp only [Function.comp_apply, hs]

/-- No change but the start of a delivery adds an item. -/
theorem items_of_moves {s : Step α} (hm : Moves r s r') (hs : s.item? = none) :
    r'.deliveries.map Delivery.item = r.deliveries.map Delivery.item := by
  cases hm with
  | deliver item deadline => cases hs
  | fetch | await => rfl
  | advance | place => exact items_setDelivery _
  | withdraw => rw [items_setDelivery, items_clear, items_setPickup]
  | take => rw [deliveries_setFetch, items_clear, items_setPickup]
  | finish => exact map_modify_of_kept (fun d => by split <;> rfl) r.deliveries _

theorem items_of_step? {s : Step α} (h : r.step? s = some r') :
    r'.deliveries.map Delivery.item = r.deliveries.map Delivery.item ++ s.item?.toList := by
  cases hs : s.item? with
  | none => simp [items_of_moves (moves_of_step? h) hs]
  | some x =>
    cases s with
    | deliver item deadline =>
      cases h
      cases hs
      simp [startDelivery]
    | fetch | deliveryTurn | fetchTurn | cancelDelivery | cancelFetch | finish | markDelivery
    | markFetch => cases hs

end Items

/-- The items of the deliveries are those that were handed in, in this order. -/
theorem items_of_play {r : Rendezvous α} {steps : List (Step α)} (h : empty.play steps = some r) :
    r.deliveries.map Delivery.item = steps.filterMap Step.item? := by
  refine Runs.run_induction
    (motive := fun xs mid => mid.deliveries.map Delivery.item = xs.filterMap Step.item?) rfl ?_ h
  intro xs mid s r' hmid hstep
  rw [items_of_step? hstep, hmid, List.filterMap_append]
  cases hs : s.item? <;> simp [hs]

/-- As long as the counter does not run through, custody runs as the rendezvous does. -/
theorem custody_play {steps : List (Step α)}
    (hfew : (steps.filterMap Step.item?).length ≤ UInt64.size) :
    Custody.empty.play steps = (empty.play steps).map custody := by
  induction steps using List.reverseRecOn with
  | nil => exact congrArg some custody_empty.symm
  | append_singleton steps s ih =>
    rw [List.filterMap_append, List.length_append] at hfew
    have hsame := ih (by omega)
    simp only [Custody.play, play, List.foldlM_append, List.foldlM_cons, List.foldlM_nil] at hsame ⊢
    rw [hsame]
    -- before the last step there are no more deliveries than items were handed in
    cases hr : steps.foldlM step? (empty : Rendezvous α) with
    | none => rfl
    | some r =>
      have hitems := items_of_play hr
      have hlen := congrArg List.length hitems
      rw [List.length_map] at hlen
      have hstep := custody_step? (sound_empty.of_play hr) (by omega) s
      simp [hstep]

end BuildBroker.Rendezvous
