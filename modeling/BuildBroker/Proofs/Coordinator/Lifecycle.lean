import BuildBroker.Proofs.Coordinator.Offers
import BuildBroker.Proofs.Coordinator.Stories

/-!
# The Life of a Build

Uploads write the phase of their build without looking at it, and results come in at any time; still
a build goes from phase to phase in a few ways only.

Main statements:
- `Phase.Next`: the ways from phase to phase.
- `Build.phase_of_moves`: there are no others.
- `Coordinator.lifecycle`: how the phases of builds change in a run, and what has happened before a
  build runs.
-/

namespace BuildBroker

/-- The ways from one phase to the next. -/
inductive Phase.Next : Phase → Phase → Prop where
  | claim : Next .created .bitsPending
  | claimAgain : Next .rejected .bitsPending
  | ask : Next .bitsPending .bitsInFlight
  | accept : Next .bitsInFlight .accepted
  | reject : Next .bitsInFlight .rejected
  | run : Next .accepted .running
  | complete {p : Phase} : p ≠ .completed → Next p .completed

namespace Build

variable {s : CoordinatorSettings} {b b' : Build} {y : BuildStep}

/-- The phase that an upload writes is the next one after the phase it is responsible for. -/
private theorem next_of_shift (h : b.Delegated) {u : Nat} {a : UploadStage} {p q : Phase}
    (hu : b.stage? u = some a) (ha : a.phase? = some q) (hnext : q.Next p) :
    (b.setPhase p).record.phase = b.record.phase ∨
      b.record.phase.Next (b.setPhase p).record.phase := by
  rw [phase_setPhase]
  split
  · rename_i hdone
    exact .inl hdone.symm
  · rename_i hopen
    -- what the upload overwrites is the phase that it has brought the build to itself
    rcases h.phase_of hu (by rw [ha]; simp) with hdone | hphase
    · exact absurd hdone hopen
    · obtain rfl : q = b.record.phase := Option.some.inj (ha.symm.trans hphase)
      exact .inr hnext

/-- A change of a build leaves its phase as it is, or takes it to the next one. -/
theorem phase_of_moves (h : b.Delegated) (hsettled : b.Settled) (hm : b.Moves s y b') :
    b'.record.phase = b.record.phase ∨ b.record.phase.Next b'.record.phase := by
  cases hm with
  | claim _ _ hclaim =>
    refine .inr ?_
    rw [record_setUpload]
    cases hphase : b.record.phase with
    | created => exact .claim
    | rejected => exact .claimAgain
    | bitsPending | bitsInFlight | accepted | running | completed =>
      rw [hphase] at hclaim
      cases hclaim
  | ask hx hs _ => exact next_of_shift h (stage?_of_upload hx hs) rfl .ask
  | turnDown hx hs => exact next_of_shift h (stage?_of_upload hx hs) rfl .reject
  | accept hx hs => exact next_of_shift h (stage?_of_upload hx hs) rfl .accept
  | finish hx hs => exact next_of_shift h (stage?_of_upload hx hs) rfl .run
  | complete _ hclose =>
    -- the log of a completed build is closed, and no log is closed twice
    refine .inr (.complete ?_)
    intro hdone
    have hclosed := hsettled.phase.mp hdone
    rw [(closed_of_close? hclose).1] at hclosed
    cases hclosed
  | bits hbits => exact .inl (by rw [hbits.frame.1])
  | start | refuse | unprepared | answer | skipSession | keepSession | clash | offer | settle
  | dropAsking | dropDelivering | log => exact .inl rfl

/-- Only an upload whose bits have been read to their end lets the build run. -/
theorem finishing_of_running (hm : b.Moves s y b') (hrunning : b'.record.phase = .running)
    (hbefore : b.record.phase ≠ .running) : ∃ u, b.stage? u = some .finishing := by
  -- writing another phase does not let the build run
  have hshift : ∀ {p : Phase}, p ≠ .running → (b.setPhase p).record.phase ≠ .running := by
    intro p hp
    rw [phase_setPhase]
    split
    · simp
    · exact hp
  cases hm with
  | finish hx hs => exact ⟨_, stage?_of_upload hx hs⟩
  | claim | complete => cases hrunning
  | ask | turnDown | accept => exact absurd hrunning (hshift (by simp))
  | bits hbits => exact absurd (hbits.frame.1 ▸ hrunning) hbefore
  | start | refuse | unprepared | answer | skipSession | keepSession | clash | offer | settle
  | dropAsking | dropDelivering | log => exact absurd hrunning hbefore

end Build

namespace Coordinator

variable {settings : CoordinatorSettings} {steps : List CoordinatorStep} {c c' : Coordinator}
variable {id : BuildId} {b b' : Build}

/-- **The life of a build.** Whatever step is taken in whatever run: a build is created when it is
registered, and from then on the step leaves its phase as it is, or takes it to the next one, so that
a completed build stays completed. And when the step lets the build run, the executor has said yes to
an upload that has offered its bits, and the fetch that has taken them has read all of them, to their
end and without a failure. -/
theorem lifecycle (h : (Coordinator.mk settings .empty).play steps = some c) {x : CoordinatorStep}
    (hstep : c.step? x = some c') (hb' : c'.registry.find? id = some b')
    {events : List BuildEvent}
    (hevents : (Coordinator.mk settings .empty).chronicle id steps = events) :
    (c.registry.find? id = none → b'.record.phase = .created) ∧
    ∀ b, c.registry.find? id = some b →
      (b'.record.phase = b.record.phase ∨ b.record.phase.Next b'.record.phase) ∧
      (b.record.phase = .completed → b'.record.phase = .completed) ∧
      (b'.record.phase = .running → b.record.phase ≠ .running →
        ∃ u payload e t now f, b.uploads[u]? = some ⟨payload, .finishing⟩ ∧
          .hears u (.ok e) ∈ events ∧ .offers u t now ∈ events ∧
          b.bits.fetchStage? f = some (.took t) ∧
          ending? (readings t events) = some .completed ∧
          piecesRead (readings t events) = payload.body.pieces ∧
          ∀ reason, .failure reason ∉ payload.body.items) := by
  subst hevents
  refine ⟨?_, ?_⟩
  · intro hnone
    rcases born_of_step? hstep hb' with ⟨b, hb, _⟩ | ⟨now, sub, rfl⟩
    · rw [hnone] at hb
      cases hb
    · rfl
  · intro b hb
    have hdelegated : b.Delegated := delegated_of_play h hb
    have hsettled : b.Settled := settled_of_play h hb
    obtain ⟨hsettings, _⟩ := born_of_play h hb
    rcases moves_between hstep hb hb' with ⟨rfl, _⟩ | ⟨y, _, hm⟩
    · exact ⟨.inl rfl, fun hdone => hdone, fun hrunning hbefore => absurd hrunning hbefore⟩
    · refine ⟨Build.phase_of_moves hdelegated hsettled hm,
        fun hdone => ((hsettled.final hdone).of_moves hm).phase, ?_⟩
      intro hrunning hbefore
      obtain ⟨u, hu⟩ := Build.finishing_of_running hm hrunning hbefore
      obtain ⟨⟨payload, stage⟩, hx, rfl⟩ := Option.map_eq_some_iff.mp hu
      -- the upload has been through all that brings an upload to this stage
      have hpast := (recalled_of_play h hb).past u _ hu
      generalize hstory : story u _ = l at hpast
      cases hpast with
      | @finishing q e t now _ hres =>
        have hfollowed := followed_of_play h hb
        have hheard := mem_of_story hstory (.tail _ (.head _))
        have hoffer := mem_of_story hstory (.tail _ (.tail _ (.head _)))
        obtain ⟨⟨f, htook⟩, hend⟩ := hfollowed.drained hdelegated.single.sound hres
        obtain ⟨_, _, _, hpieces, hfailure⟩ :=
          (offered_of_play h hb).read_whole hfollowed hoffer hx htook hend
        exact ⟨u, payload, e, t, now, f, hx, hheard, hoffer, htook, hend, hpieces, hfailure⟩

/-- An upload is accepted, and a fetch reads its bits to their end. -/
def readUpload : List CoordinatorStep :=
  [.create ⟨7⟩ ⟨⟨2026, 1, 1⟩, 0, 0⟩ ⟨"image", "", "", .empty⟩,
    .build ⟨7⟩ (.upload ⟨some "text/plain", .ofBytes [1]⟩), .build ⟨7⟩ (.uploadTurn 0 0),
    .build ⟨7⟩ (.uploadTurn 0 0), .build ⟨7⟩ (.answer 0 (.ok .none)),
    .build ⟨7⟩ (.uploadTurn 0 0), .build ⟨7⟩ (.uploadTurn 0 0), .build ⟨7⟩ (.uploadTurn 0 0),
    .build ⟨7⟩ (.uploadTurn 1 0), .build ⟨7⟩ (.fetch 2), .build ⟨7⟩ (.fetchTurn 2 0),
    .build ⟨7⟩ (.pollBits 0), .build ⟨7⟩ (.pollBits 0), .build ⟨7⟩ (.uploadTurn 3 0),
    .build ⟨7⟩ (.uploadTurn 3 0), .build ⟨7⟩ (.uploadTurn 3 0)]

/-- The next turn of the upload lets the build run, for the bits have been read to their end. -/
theorem lifecycle_readUpload :
    ∃ c c' b b', smallShop.play readUpload = some c ∧
      c.step? (.build ⟨7⟩ (.uploadTurn 4 0)) = some c' ∧ c.registry.find? ⟨7⟩ = some b ∧
      c'.registry.find? ⟨7⟩ = some b' ∧ b.record.phase = .accepted ∧
      b.record.phase.Next b'.record.phase ∧
      ∃ t f, b.bits.fetchStage? f = some (.took t) ∧
        ending? (readings t (smallShop.chronicle ⟨7⟩ readUpload)) = some .completed := by
  have hlast : (((smallShop.play readUpload).bind
      (·.step? (.build ⟨7⟩ (.uploadTurn 4 0)))).bind (·.registry.find? ⟨7⟩)).map
        (·.record.phase) = some .running := by decide +kernel
  obtain ⟨b', hb'', hrunning⟩ := Option.map_eq_some_iff.mp hlast
  obtain ⟨c', hc'', hb'⟩ := Option.bind_eq_some_iff.mp hb''
  obtain ⟨c, hc, hc'⟩ := Option.bind_eq_some_iff.mp hc''
  have hbefore : ((smallShop.play readUpload).bind (·.registry.find? ⟨7⟩)).map
      (·.record.phase) = some .accepted := by decide +kernel
  rw [hc, Option.bind_some] at hbefore
  obtain ⟨b, hb, haccepted⟩ := Option.map_eq_some_iff.mp hbefore
  -- the turn changes the phase, so it is the one that reads the bits to their end
  have hchange : b'.record.phase ≠ b.record.phase := by
    rw [hrunning, haccepted]
    simp
  obtain ⟨hnext, _, hread⟩ := (lifecycle hc hc' hb' rfl).2 b hb
  obtain ⟨u, payload, e, t, now, f, _, _, _, htook, hend, _⟩ :=
    hread hrunning (hrunning ▸ hchange.symm)
  exact ⟨c, c', b, b', hc, hc', hb, hb', haccepted, hnext.resolve_left hchange, t, f, htook, hend⟩

end Coordinator

end BuildBroker
