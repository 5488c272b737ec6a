import BuildBroker.Proofs.Coordinator.Delegation

/-!
# Builds That Are Stranded

A build is in one of the two phases of a delegation as long as an upload works on it. There are two
ways out that leave it there: the addresses for the executor cannot be made, or the caller goes away
while the executor is asked. After either, no upload can claim the build any more.

Main statements:
- `UploadStage.IsDelegating`, `UploadStage.IsLost`: an upload that works on the delegation, and one
  that has left it unfinished.
- `Build.Delegated.phase_iff`: the phases of a delegation are those of such uploads.
- `Build.Delegated.claimable_of_idle`: without such uploads the build can be claimed again.
- `Build.Delegated.refuses_of_lost`: after a lost upload it cannot.
- `Coordinator.lost_of_step?`: the two ways in which uploads get lost.
- `Coordinator.stranded_iff`: exactly when a build is left in a phase of a delegation.
-/

namespace BuildBroker

/-! ## §1 Uploads That Work and Uploads That Are Lost -/

/-- The phases in which a build is being delegated. -/
def Phase.IsDelegation (p : Phase) : Prop :=
  p = .bitsPending ∨ p = .bitsInFlight

namespace UploadStage

/-- The upload is under way, has claimed the build, and has not recorded a yes of the executor. -/
def IsDelegating : UploadStage → Prop
  | .preparing | .submitting _ | .answered _ _ | .accepting => True
  | _ => False

/-- The upload is over, has claimed the build, and has neither recorded a yes of the executor nor
given the build back. -/
def IsLost : UploadStage → Prop
  | .ended (.error (.internal _)) | .dropped none => True
  | _ => False

theorem IsLost.over {x : UploadStage} (h : x.IsLost) : x.IsOver := by
  unfold IsLost at h
  split at h
  · trivial
  · trivial
  · exact h.elim

theorem IsLost.not_delegating {x : UploadStage} (h : x.IsLost) : ¬x.IsDelegating := by
  unfold IsLost at h
  split at h
  · exact id
  · exact id
  · exact h.elim

/-- An upload is responsible for a phase of a delegation if it works on one or is lost. -/
theorem phase?_isDelegation {x : UploadStage} {p : Phase} (h : x.phase? = some p) :
    p.IsDelegation ↔ x.IsDelegating ∨ x.IsLost := by
  unfold phase? at h
  split at h
  all_goals first | (cases h; done) | (cases h; simp [Phase.IsDelegation, IsDelegating, IsLost])

theorem phase?_ne_of_delegating {x : UploadStage} (h : x.IsDelegating ∨ x.IsLost) :
    x.phase? ≠ none := by
  unfold IsDelegating IsLost at h
  unfold phase?
  rcases h with h | h
  · split at h
    all_goals first | exact h.elim | simp
  · split at h
    all_goals first | exact h.elim | simp

/-- An upload that is responsible for a phase works on the delegation, is lost, or has a yes. -/
theorem cases_of_phase? {x : UploadStage} (h : x.phase? ≠ none) :
    x.IsDelegating ∨ x.IsLost ∨ x.IsGranted := by
  unfold phase? at h
  split at h
  all_goals first
    | exact .inl trivial
    | exact .inr (.inl trivial)
    | exact .inr (.inr trivial)
    | exact absurd rfl h

end UploadStage

/-! ## §2 The Phases of a Delegation -/

namespace Build

theorem beginDelegation_of_claimable {b : Build} (h : b.record.phase.isClaimable = true) :
    ∃ b', b.beginDelegation = .ok b' := by
  simp [beginDelegation, h]

theorem beginDelegation_of_delegation {b : Build} (h : b.record.phase.IsDelegation) :
    b.beginDelegation = .error (.alreadyDelegated b.id) := by
  rcases h with h | h
  · simp [beginDelegation, h, Phase.isClaimable]
  · simp [beginDelegation, h, Phase.isClaimable]

namespace Delegated

variable {b : Build}

/-- A build is in a phase of a delegation exactly if an upload works on it or one has been lost, and
there is no result yet. -/
theorem phase_iff (h : b.Delegated) :
    b.record.phase.IsDelegation ↔ b.record.phase ≠ .completed ∧
      ∃ u x, b.stage? u = some x ∧ (x.IsDelegating ∨ x.IsLost) := by
  constructor
  · intro hphase
    have hopen : b.record.phase ≠ .completed := by
      rcases hphase with heq | heq
      · rw [heq]; simp
      · rw [heq]; simp
    refine ⟨hopen, ?_⟩
    -- the phase of an open build is owned by an upload, or can be claimed
    rcases h.phase with hdone | ⟨u, x, hu, hx⟩ | ⟨hclaim, _⟩
    · exact absurd hdone hopen
    · exact ⟨u, x, hu, (UploadStage.phase?_isDelegation hx).mp hphase⟩
    · rcases hphase with heq | heq
      · rw [heq] at hclaim; cases hclaim
      · rw [heq] at hclaim; cases hclaim
  · rintro ⟨hopen, u, x, hu, hx⟩
    rcases h.phase_of hu (UploadStage.phase?_ne_of_delegating hx) with hdone | hown
    · exact absurd hdone hopen
    · exact (UploadStage.phase?_isDelegation hown).mpr hx

/-- If no upload works on the delegation, none is lost and none has got a yes, then the build can be
claimed, unless there is a result. -/
theorem claimable_of_idle (h : b.Delegated)
    (hidle : ∀ u x, b.stage? u = some x → ¬x.IsDelegating ∧ ¬x.IsLost ∧ ¬x.IsGranted) :
    b.record.phase = .completed ∨ b.record.phase.isClaimable = true := by
  rcases h.phase with hdone | ⟨u, x, hu, hx⟩ | ⟨hclaim, _⟩
  · exact .inl hdone
  · obtain ⟨hworks, hlost, hgranted⟩ := hidle u x hu
    rcases UploadStage.cases_of_phase? (x := x) (by rw [hx]; simp) with hc | hc | hc
    · exact absurd hc hworks
    · exact absurd hc hlost
    · exact absurd hc hgranted
  · exact .inr hclaim

/-- After a lost upload no other one works on the delegation, and none can claim the build. -/
theorem refuses_of_lost (h : b.Delegated) {u : Nat} {x : UploadStage} (hu : b.stage? u = some x)
    (hx : x.IsLost) (hopen : b.record.phase ≠ .completed) :
    b.record.phase.IsDelegation ∧ (∀ v y, b.stage? v = some y → ¬y.IsDelegating) ∧
      b.beginDelegation = .error (.alreadyDelegated b.id) := by
  have hphase : b.record.phase.IsDelegation := h.phase_iff.mpr ⟨hopen, u, x, hu, .inr hx⟩
  refine ⟨hphase, ?_, beginDelegation_of_delegation hphase⟩
  intro v y hv hy
  obtain rfl := h.one hu hv (UploadStage.phase?_ne_of_delegating (.inr hx))
    (UploadStage.phase?_ne_of_delegating (.inl hy))
  obtain rfl : x = y := Option.some.inj (hu.symm.trans hv)
  exact hx.not_delegating hy

end Delegated

end Build

/-! ## §3 How Uploads Get Lost -/

namespace Coordinator

variable {settings : CoordinatorSettings} {steps : List CoordinatorStep} {c c' : Coordinator}
variable {id : BuildId} {b b' : Build}

/-- An upload gets lost because its caller goes away while the executor is asked, or because the
addresses for the executor cannot be made. -/
theorem lost_of_step? {x : CoordinatorStep} (h : c.step? x = some c')
    (hb : c.registry.find? id = some b) (hb' : c'.registry.find? id = some b') {u : Nat}
    {a : UploadStage} (hu : b'.stage? u = some a) (ha : a.IsLost) :
    b.stage? u = some a ∨
    (x = .build id (.dropUpload u) ∧ b.isAsking u = true) ∨
    ∃ now e, x = .build id (.uploadTurn now u) ∧ b.stage? u = some .preparing ∧
      CallbackUrls.forBuild c.settings.peer id = .error e := by
  have hname : b.id = id := id_of_find? hb
  obtain ⟨b₁, hb₁, ⟨heq, _⟩ | ⟨y, rfl, hm⟩⟩ := moves_of_step? h hb
  · obtain rfl : b' = b₁ := Option.some.inj (hb'.symm.trans hb₁)
    rw [heq] at hu
    exact .inl hu
  · obtain rfl : b' = b₁ := Option.some.inj (hb'.symm.trans hb₁)
    cases hold : b.stage? u with
    | none =>
      rw [Build.fresh_of_moves hm hold hu] at ha
      exact ha.elim
    | some a₀ =>
      obtain ⟨a₁, hu₁, hnext⟩ := Build.next_of_moves hm hold
      obtain rfl : a = a₁ := Option.some.inj (hu.symm.trans hu₁)
      rcases hnext with rfl | hnext
      · exact .inl rfl
      · rw [hname] at hnext
        -- only two of the ways of an upload end where one is lost
        cases hnext with
        | unprepared herror => exact .inr (.inr ⟨_, _, rfl, rfl, herror⟩)
        | dropAsking => exact .inr (.inl ⟨rfl, (b.isAsking_iff u).mpr ⟨_, hold⟩⟩)
        | claim | refuse | ask | answer | turnDown | keep | clash | accept | offer | finish
        | dropDelivering => exact ha.elim
        | @settle _ _ res =>
          cases res with
          | drained o => cases o <;> exact ha.elim
          | notFetched => exact ha.elim

/-- Giving up an upload for which the executor is asked loses it. -/
private theorem lost_of_drop (hb : c.registry.find? id = some b)
    (hb' : c'.registry.find? id = some b') {u : Nat} (hasking : b.isAsking u = true)
    (h : c.step? (.build id (.dropUpload u)) = some c') :
    ∃ a, b'.stage? u = some a ∧ a.IsLost := by
  obtain ⟨d, hu⟩ := (b.isAsking_iff u).mp hasking
  obtain ⟨⟨payload, stage⟩, hx, rfl⟩ := Option.map_eq_some_iff.mp hu
  have hchange := find?_of_modify? h (fun b b' hb' => ?_) hb hb'
  · have hdrop : b' = b.setUpload u (.dropped none) := by
      simpa [Build.uploadWaits, Build.dropUpload, hx, eq_comm] using hchange
    exact ⟨.dropped none, by rw [hdrop, Build.stage?_setUpload_self hu], trivial⟩
  · split at hb'
    · rename_i hwaits
      cases hb'
      exact (Build.moves_of_dropUpload (s := c.settings) hwaits).id_eq
    · cases hb'

/-- An upload whose addresses cannot be made is lost. -/
private theorem lost_of_turn (hb : c.registry.find? id = some b)
    (hb' : c'.registry.find? id = some b') {u now : Nat} {e : BuildError}
    (hu : b.stage? u = some .preparing)
    (herror : CallbackUrls.forBuild c.settings.peer id = .error e)
    (h : c.step? (.build id (.uploadTurn now u)) = some c') :
    ∃ a, b'.stage? u = some a ∧ a.IsLost := by
  obtain ⟨x, hx, hs⟩ := Option.map_eq_some_iff.mp hu
  have hname : b.id = id := id_of_find? hb
  have hchange := find?_of_modify? h (fun _ _ hb' => (Build.moves_of_uploadTurn? hb').id_eq) hb hb'
  have hturn : b' = b.setUpload u (.ended (.error (.internal e.message))) := by
    simpa [Build.uploadTurn?, hx, hs, hname, herror, eq_comm] using hchange
  refine ⟨.ended (.error (.internal e.message)), ?_, trivial⟩
  rw [hturn, Build.stage?_setUpload_self hu]

/-- A lost upload stays lost, and there are two ways for an upload to get lost. -/
theorem lost_iff_of_step? {x : CoordinatorStep} (h : c.step? x = some c')
    (hb : c.registry.find? id = some b) (hb' : c'.registry.find? id = some b') (u : Nat) :
    (∃ a, b'.stage? u = some a ∧ a.IsLost) ↔
      (∃ a, b.stage? u = some a ∧ a.IsLost) ∨
      (x = .build id (.dropUpload u) ∧ b.isAsking u = true) ∨
      ∃ now e, x = .build id (.uploadTurn now u) ∧ b.stage? u = some .preparing ∧
        CallbackUrls.forBuild c.settings.peer id = .error e := by
  constructor
  · rintro ⟨a, hu, ha⟩
    rcases lost_of_step? h hb hb' hu ha with hold | hdrop | hturn
    · exact .inl ⟨a, hold, ha⟩
    · exact .inr (.inl hdrop)
    · exact .inr (.inr hturn)
  · rintro (⟨a, hu, ha⟩ | ⟨rfl, hasking⟩ | ⟨now, e, rfl, hu, herror⟩)
    · obtain ⟨b₁, hb₁, hreach⟩ := reaches_of_step? h hb
      obtain rfl : b' = b₁ := Option.some.inj (hb'.symm.trans hb₁)
      exact ⟨a, ha.over.of_reaches hreach hu, ha⟩
    · exact lost_of_drop hb hb' hasking h
    · exact lost_of_turn hb hb' hu herror h

/-! ## §4 Exactly When a Build Is Stranded -/

/-- **Stranded builds.** In every run: a build is in a phase of a delegation that no upload works on
exactly if an upload was lost and there is no result. If none works on it, none was lost and none got
a yes, the build is created, rejected or completed, and can be claimed unless it is completed. After a
lost upload the build stays in a phase of a delegation, no upload works on it and none can claim it,
until there is a result. And uploads get lost in two ways only: the caller goes away while the
executor is asked, or the addresses for the executor cannot be made. -/
theorem stranded_iff (h : (Coordinator.mk settings .empty).play steps = some c)
    (hb : c.registry.find? id = some b) :
    ((b.record.phase.IsDelegation ∧ ∀ u x, b.stage? u = some x → ¬x.IsDelegating) ↔
      b.record.phase ≠ .completed ∧ ∃ u x, b.stage? u = some x ∧ x.IsLost) ∧
    ((∀ u x, b.stage? u = some x → ¬x.IsDelegating ∧ ¬x.IsLost ∧ ¬x.IsGranted) →
      (b.record.phase = .created ∨ b.record.phase = .rejected ∨ b.record.phase = .completed) ∧
        (b.record.phase ≠ .completed → ∃ b', b.beginDelegation = .ok b')) ∧
    (∀ u x, b.stage? u = some x → x.IsLost →
      ∀ more c' b', c.play more = some c' → c'.registry.find? id = some b' →
        b'.record.phase ≠ .completed →
        b'.record.phase.IsDelegation ∧ (∀ v y, b'.stage? v = some y → ¬y.IsDelegating) ∧
          b'.beginDelegation = .error (.alreadyDelegated id)) ∧
    (∀ x c' b', c.step? x = some c' → c'.registry.find? id = some b' → ∀ u,
      (∃ a, b'.stage? u = some a ∧ a.IsLost) ↔
        (∃ a, b.stage? u = some a ∧ a.IsLost) ∨
        (x = .build id (.dropUpload u) ∧ b.isAsking u = true) ∨
        ∃ now e, x = .build id (.uploadTurn now u) ∧ b.stage? u = some .preparing ∧
          CallbackUrls.forBuild settings.peer id = .error e) := by
  have hdelegated : b.Delegated := delegated_of_play h hb
  refine ⟨?_, ?_, ?_, ?_⟩
  · rw [hdelegated.phase_iff]
    constructor
    · rintro ⟨⟨hopen, u, x, hu, hx⟩, hidle⟩
      exact ⟨hopen, u, x, hu, hx.resolve_left (hidle u x hu)⟩
    · rintro ⟨hopen, u, x, hu, hx⟩
      exact ⟨⟨hopen, u, x, hu, .inr hx⟩, (hdelegated.refuses_of_lost hu hx hopen).2.1⟩
  · intro hidle
    rcases hdelegated.claimable_of_idle hidle with hdone | hclaim
    · exact ⟨.inr (.inr hdone), fun hopen => absurd hdone hopen⟩
    · refine ⟨?_, fun _ => Build.beginDelegation_of_claimable hclaim⟩
      cases hphase : b.record.phase with
      | created => exact .inl rfl
      | rejected => exact .inr (.inl rfl)
      | bitsPending | bitsInFlight | accepted | running | completed =>
        rw [hphase] at hclaim
        cases hclaim
  · intro u x hu hx more c' b' hmore hb' hopen
    -- a lost upload is over, and an upload that is over stays where it is
    obtain ⟨_, b₁, hb₁, hreach⟩ := reaches_of_play hmore hb
    obtain rfl : b' = b₁ := Option.some.inj (hb'.symm.trans hb₁)
    have hstays : b'.stage? u = some x := hx.over.of_reaches hreach hu
    have hname : b'.id = id := id_of_find? hb'
    rw [← hname]
    exact (hdelegated.of_reaches hreach).refuses_of_lost hstays hx hopen
  · intro x c' b' hstep hb' u
    obtain ⟨hsettings, _⟩ := born_of_play h hb
    rw [← hsettings]
    exact lost_iff_of_step? hstep hb hb' u

/-- The executor is asked on behalf of an upload. -/
def askedOnce : List CoordinatorStep :=
  [.create ⟨7⟩ ⟨⟨2026, 1, 1⟩, 0, 0⟩ ⟨"image", "", "", .empty⟩,
    .build ⟨7⟩ (.upload ⟨none, .ofBytes [1]⟩),
    .build ⟨7⟩ (.uploadTurn 0 0), .build ⟨7⟩ (.uploadTurn 0 0)]

/-- The caller of that upload goes away, and another upload is started and refused. -/
def goneCaller : List CoordinatorStep :=
  [.build ⟨7⟩ (.dropUpload 0), .build ⟨7⟩ (.upload ⟨none, .ofBytes [2]⟩),
    .build ⟨7⟩ (.uploadTurn 0 1)]

/-- Nobody works on the build when its caller has gone away, and nobody can claim it. -/
theorem stranded_goneCaller :
    ∃ c c' b', smallShop.play askedOnce = some c ∧ c.play goneCaller = some c' ∧
      c'.registry.find? ⟨7⟩ = some b' ∧ b'.record.phase = .bitsInFlight ∧
      (∀ v y, b'.stage? v = some y → ¬y.IsDelegating) ∧
      b'.beginDelegation = .error (.alreadyDelegated ⟨7⟩) := by
  have hlast : (((smallShop.play askedOnce).bind (·.play goneCaller)).bind
      (·.registry.find? ⟨7⟩)).map (·.record.phase) = some .bitsInFlight := by decide +kernel
  obtain ⟨b', hb'', hphase⟩ := Option.map_eq_some_iff.mp hlast
  obtain ⟨c', hc'', hb'⟩ := Option.bind_eq_some_iff.mp hb''
  obtain ⟨c, hc, hc'⟩ := Option.bind_eq_some_iff.mp hc''
  have hasks : ((smallShop.play askedOnce).bind (·.registry.find? ⟨7⟩)).map (·.isAsking 0) =
      some true := by decide +kernel
  rw [hc, Option.bind_some] at hasks
  obtain ⟨b, hb, hasking⟩ := Option.map_eq_some_iff.mp hasks
  -- the first of the steps loses the upload, the others find the build stranded
  obtain ⟨c₁, hdrop, hmore⟩ := Option.bind_eq_some_iff.mp hc'
  obtain ⟨b₁, hb₁, _⟩ := reaches_of_step? hdrop hb
  obtain ⟨a, hu, ha⟩ := ((stranded_iff hc hb).2.2.2 _ c₁ b₁ hdrop hb₁ 0).mpr (.inr (.inl ⟨rfl, hasking⟩))
  have hplay₁ : smallShop.play (askedOnce ++ [.build ⟨7⟩ (.dropUpload 0)]) = some c₁ :=
    Runs.run_concat.mpr ⟨c, hc, hdrop⟩
  have hopen : b'.record.phase ≠ .completed := by rw [hphase]; simp
  obtain ⟨_, hidle, hrefused⟩ :=
    (stranded_iff hplay₁ hb₁).2.2.1 0 a hu ha goneCaller.tail c' b' hmore hb' hopen
  exact ⟨c, c', b', hc, hc', hb', hphase, hidle, hrefused⟩

end Coordinator

end BuildBroker
