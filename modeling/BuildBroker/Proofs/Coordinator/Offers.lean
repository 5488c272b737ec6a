import BuildBroker.Proofs.Coordinator.Readers
import BuildBroker.Proofs.Rendezvous.Deadlines

/-!
# What Uploads Offer

The bits that an upload has offered lie under their ticket, until a deadline that is counted from the
offer; and a delivery gives up only when its upload has looked after that deadline.

Main statements:
- `Build.Offered`: offers and looks in the chronicle, and the deliveries.
- `Coordinator.offered_of_play`: they fit together in every run.
- `Build.Followed.drained`: a delivery that has ended was drained as its reader left it.
- `Build.Offered.read_whole`: bits that were read to their end are those that were offered.
-/

namespace BuildBroker

namespace Build

variable {s : CoordinatorSettings} {b b' : Build} {y : BuildStep} {h : List BuildEvent}

/-- What has been offered lies under its ticket, and a delivery that has given up was looked at after
its deadline. -/
structure Offered (s : CoordinatorSettings) (b : Build) (h : List BuildEvent) : Prop where
  offers : ∀ u t now, .offers u t now ∈ h → ∃ x d, b.uploads[u]? = some x ∧
    b.bits.deliveries[t]? = some d ∧ d.item = x.payload ∧ d.deadline = now + s.pickupTimeout
  looked : ∀ t d, b.bits.IsLate t → b.bits.deliveries[t]? = some d →
    ∃ now, .looks t now ∈ h ∧ d.deadline ≤ now

/-- A delivery keeps its item and its deadline, whatever happens to its build. -/
private theorem delivery_of_moves (hsound : b.bits.Sound) (hm : b.Moves s y b') {t : Nat}
    {d : Rendezvous.Delivery Payload} (hd : b.bits.deliveries[t]? = some d) :
    ∃ d', b'.bits.deliveries[t]? = some d' ∧ d'.item = d.item ∧ d'.deadline = d.deadline := by
  rcases hm.rendezvous hsound with hsame | ⟨x, hstep, _⟩
  · exact ⟨d, hsame ▸ hd, rfl, rfl⟩
  · exact (Rendezvous.moves_of_step? hstep).delivery hd

/-- An offer is noted when an upload is about to make it. -/
private theorem of_offers_mem_notes {u t now : Nat} (hmem : .offers u t now ∈ b.notes y) :
    y = .uploadTurn now u ∧ b.stage? u = some .offering ∧ t = b.bits.deliveries.length := by
  -- a turn of an upload that is at its offering is the only thing that notes an offer
  cases y with
  | uploadTurn now' u' =>
    simp only [notes] at hmem
    split at hmem
    · simp at hmem
    · rename_i hu
      cases List.mem_singleton.mp hmem
      exact ⟨rfl, hu, rfl⟩
    · simp at hmem
    · cases hmem
  | answer => simp [notes] at hmem
  | pollBits | leaveBits =>
    simp only [notes] at hmem
    split at hmem <;> simp at hmem
  | upload | dropUpload | fetch | fetchTurn | dropFetch | markDelivery | markFetch | recordResult
  | abort | append | observe | receive | unobserve => cases hmem

/-- An upload that is about to offer its bits does so in its turn. -/
private theorem offer_of_moves {u now : Nat} (hm : b.Moves s (.uploadTurn now u) b')
    (hu : b.stage? u = some .offering) :
    ∃ x, b.uploads[u]? = some x ∧
      b' = { b with bits := b.bits.startDelivery x.payload (now + s.pickupTimeout) }.setUpload u
        (.delivering b.bits.deliveries.length) := by
  obtain ⟨x, hx, hs⟩ := Option.map_eq_some_iff.mp hu
  have hturn := uploadTurn?_of_moves hm
  simp only [uploadTurn?, hx, hs, Option.some.injEq] at hturn
  exact ⟨x, hx, hturn.symm⟩

/-- Every change of a build keeps the invariant. -/
theorem Offered.of_moves (ho : b.Offered s h) (hsound : b.bits.Sound) (hm : b.Moves s y b') :
    b'.Offered s (h ++ b.notes y) := by
  refine ⟨?_, ?_⟩
  · intro u t now hmem
    rcases List.mem_append.mp hmem with hold | hnew
    · obtain ⟨x, d, hx, hd, hitem, hdeadline⟩ := ho.offers u t now hold
      obtain ⟨x', hx', hpayload⟩ := payload_of_moves hm hx
      obtain ⟨d', hd', hitem', hdeadline'⟩ := delivery_of_moves hsound hm hd
      exact ⟨x', d', hx', hd', by rw [hitem', hitem, hpayload], hdeadline'.trans hdeadline⟩
    · obtain ⟨rfl, hu, rfl⟩ := of_offers_mem_notes hnew
      obtain ⟨x, hx, rfl⟩ := offer_of_moves hm hu
      obtain ⟨x', hx', hpayload⟩ := payload_of_moves hm hx
      have hd : (b.bits.startDelivery x.payload (now + s.pickupTimeout)).deliveries[
          b.bits.deliveries.length]? =
          some ⟨x.payload, now + s.pickupTimeout, .looking, .awaited, none⟩ := by
        rw [Rendezvous.deliveries_startDelivery, if_pos rfl]
      exact ⟨x', _, hx', hd, hpayload.symm, rfl⟩
  · intro t d' hlate hd'
    -- a delivery that was late before has been looked at before
    have hbefore : b.bits.IsLate t → ∃ now, .looks t now ∈ h ++ b.notes y ∧ d'.deadline ≤ now := by
      intro hlate
      have ⟨_, hs, _⟩ := hlate
      obtain ⟨d, hd, _⟩ := Rendezvous.delivery_of_stage hs
      obtain ⟨now, hlooks, hover⟩ := ho.looked t d hlate hd
      obtain ⟨d₁, hd₁, _, hdeadline⟩ := delivery_of_moves hsound hm hd
      obtain rfl : d₁ = d' := Option.some.inj (hd₁.symm.trans hd')
      exact ⟨now, List.mem_append_left _ hlooks, hdeadline ▸ hover⟩
    rcases hm.rendezvous hsound with hsame | ⟨x, hstep, hturn⟩
    · exact hbefore (hsame ▸ hlate)
    · rcases Rendezvous.late_of_step? hsound hstep hlate with hold | ⟨now, d, rfl, hd, hover⟩
      · exact hbefore hold
      · obtain ⟨u, rfl, hu⟩ := hturn now t rfl
        obtain ⟨d₁, hd₁, _, hdeadline⟩ := delivery_of_moves hsound hm hd
        obtain rfl : d₁ = d' := Option.some.inj (hd₁.symm.trans hd')
        have hlooks : .looks t now ∈ b.notes (.uploadTurn now u) := by simp [notes, hu]
        exact ⟨now, List.mem_append_right _ hlooks, hdeadline ▸ hover⟩

/-! ## §2 What Becomes of Offered Bits -/

/-- A delivery that has ended was drained as its reader left it. -/
theorem Followed.drained (hf : b.Followed h) (hsound : b.bits.Sound) {t : Nat}
    {o : Rendezvous.Outcome} (hres : b.bits.result? t = some (.drained o)) :
    (∃ f, b.bits.fetchStage? f = some (.took t)) ∧ ending? (readings t h) = some o := by
  obtain ⟨d, hd, hs⟩ :=
    Rendezvous.delivery_of_stage (Rendezvous.deliveryStage?_of_result? hres)
  have hconsistent := (hsound.consistent t d hd).2
  simp only [hs] at hconsistent
  obtain ⟨_, htaken, ho⟩ := hconsistent
  refine ⟨(hsound.taken t).mp (by rw [Rendezvous.pickup?_of_delivery hd, htaken]), ?_⟩
  rw [← hf.told t, Rendezvous.outcome?_of_delivery hd, ho]

/-- Bits that were read to their end are those that were offered, with their type. -/
theorem Offered.read_whole (ho : b.Offered s h) (hf : b.Followed h) {u t now f : Nat} {x : Upload}
    (hoffer : .offers u t now ∈ h) (hx : b.uploads[u]? = some x)
    (htook : b.bits.fetchStage? f = some (.took t))
    (hend : ending? (readings t h) = some .completed) :
    ∃ r, b.reader? t = some r ∧ r.contentType = x.payload.contentType ∧
      piecesRead (readings t h) = x.payload.body.pieces ∧
      ∀ reason, .failure reason ∉ x.payload.body.items := by
  obtain ⟨r, hr⟩ := Option.isSome_iff_exists.mp ((hf.taken t).mpr ⟨f, htook⟩)
  obtain ⟨p, hp, htype, hreads⟩ := hf.reads t r hr
  obtain ⟨x', d, hx', hd, hitem, _⟩ := ho.offers u t now hoffer
  obtain rfl : x' = x := Option.some.inj (hx'.symm.trans hx)
  obtain rfl : p = x'.payload := by
    have hitem' : b.bits.item? t = some d.item := by
      simp only [Rendezvous.item?, hd, Option.map_some]
    rw [← hitem]
    exact Option.some.inj (hp.symm.trans hitem')
  obtain ⟨hpieces, hfailure, _⟩ := hreads.whole hend
  exact ⟨r, hr, htype, hpieces, hfailure⟩

end Build

namespace Coordinator

variable {settings : CoordinatorSettings} {steps : List CoordinatorStep} {c : Coordinator}
variable {id : BuildId} {b : Build}

theorem offered_of_play (h : (Coordinator.mk settings .empty).play steps = some c)
    (hb : c.registry.find? id = some b) :
    b.Offered settings ((Coordinator.mk settings .empty).chronicle id steps) := by
  refine chronicle_induction (motive := Build.Offered settings) ?_
    (fun _ _ _ _ _ hdelegated _ ho hm => ho.of_moves hdelegated.single.sound hm) h hb
  intro now sub
  refine ⟨by simp, ?_⟩
  rintro t d ⟨stage, hs, _⟩
  simp [Build.fresh, Rendezvous.empty, Rendezvous.deliveryStage?] at hs

end Coordinator

end BuildBroker
