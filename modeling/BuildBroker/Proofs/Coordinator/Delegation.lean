import BuildBroker.Proofs.Coordinator.Uploads
import BuildBroker.Proofs.Rendezvous.Handover

/-!
# A Build Is Delegated Once

Several uploads of one build may be under way, but the phase of the build lets only one of them ask
the executor; and when the executor has said yes, none ever asks again.

Main statements:
- `UploadStage.phase?`: the phase that an upload has brought its build to and is responsible for.
- `Build.Delegated`: the invariant of a build; one upload at most is responsible for its phase.
- `Build.Delegated.of_moves`: every change of a build keeps it.
- `Build.granted_of_moves`: an upload that the executor has said yes to stays so.
- `Coordinator.delegated_once`: at most one delegation at a time, and none after an acceptance.
-/

namespace BuildBroker

/-! ## §1 What Uploads Have Come To -/

namespace UploadStage

/-- The phase that an upload has brought its build to; none if it has not claimed the build, or has
given it back. -/
def phase? : UploadStage → Option Phase
  | .preparing => some .bitsPending
  | .submitting _ | .answered _ _ | .accepting => some .bitsInFlight
  | .offering | .delivering _ | .finishing => some .accepted
  | .ended (.ok _) => some .running
  | .ended (.error .bitsNotFetched) | .ended (.error .bitsInterrupted) => some .accepted
  | .ended (.error (.internal _)) => some .bitsPending
  | .dropped none => some .bitsInFlight
  | .dropped (some _) => some .accepted
  | .claiming | .ended (.error _) => none

/-- The bits have been offered. -/
def IsOffered : UploadStage → Prop
  | .delivering _ | .finishing | .ended (.ok _) | .ended (.error .bitsNotFetched)
  | .ended (.error .bitsInterrupted) | .dropped (some _) => True
  | _ => False

/-- The executor has said yes, and its endpoints have been recorded. -/
def IsKept : UploadStage → Prop
  | .accepting | .offering => True
  | s => s.IsOffered

/-- The executor has said yes. -/
def IsGranted : UploadStage → Prop
  | .answered _ (.ok _) => True
  | s => s.IsKept

theorem IsKept.of_offered {s : UploadStage} (h : s.IsOffered) : s.IsKept := by
  unfold IsKept
  split
  · trivial
  · trivial
  · exact h

theorem IsGranted.of_kept {s : UploadStage} (h : s.IsKept) : s.IsGranted := by
  unfold IsGranted
  split
  · trivial
  · exact h

/-- An upload that the executor has said yes to is responsible for a phase. -/
theorem IsGranted.phase?_ne {s : UploadStage} (h : s.IsGranted) : s.phase? ≠ none := by
  unfold IsGranted IsKept IsOffered at h
  unfold phase?
  -- each stage after the yes has a phase of its own
  split at h
  · simp
  · split at h
    · simp
    · simp
    · split at h
      all_goals first | exact h.elim | simp

end UploadStage

namespace Build

/-! ## §2 The Bits of a Build -/

/-- Whatever happens at the place of the bits besides an offer is a step at a rendezvous, or nothing;
deliveries take their turns when their uploads do. -/
theorem BitsMoves.rendezvous {s : CoordinatorSettings} {b b' : Build} {y : BuildStep}
    (h : b.BitsMoves s y b') (hsound : b.bits.Sound) :
    b'.bits = b.bits ∨
      ∃ x, b.bits.step? x = some b'.bits ∧ (∀ item deadline, x ≠ .deliver item deadline) ∧
        ∀ now t, x = .deliveryTurn now t →
          ∃ u, y = .uploadTurn now u ∧ b.stage? u = some (.delivering t) := by
  have hreport : ∀ (b₀ : Build) (t : Nat) (report : Option Rendezvous.Outcome),
      b₀.bits = b.bits → (b₀.reportDrain t report).bits = b.bits ∨
        ∃ x, b.bits.step? x = some (b₀.reportDrain t report).bits ∧
          (∀ item deadline, x ≠ .deliver item deadline) ∧
          ∀ now t, x = .deliveryTurn now t →
            ∃ u, y = .uploadTurn now u ∧ b.stage? u = some (.delivering t) := by
    intro b₀ t report hbits
    -- nothing to report is no step; a report on bits that are held is one
    cases report with
    | none => exact .inl hbits
    | some o =>
      have heq : (b₀.reportDrain t (some o)).bits = b.bits.report t o := by
        rw [← hbits]
        rfl
      rw [heq]
      exact (hsound.report t o).imp_right fun ⟨f, hstep⟩ =>
        ⟨.finish f o, hstep, by simp, by simp⟩
  -- each of the others is the step of its name
  cases h with
  | @deliveryTurn u t now x bits hx hs _ hturn =>
    refine .inr ⟨.deliveryTurn now t, hturn, by simp, ?_⟩
    rintro now' t' ⟨⟩
    exact ⟨u, rfl, stage?_of_upload hx hs⟩
  | fetch now => exact .inr ⟨.fetch (now + s.fetchTimeout), rfl, by simp, by simp⟩
  | @fetchTurn now f b' hturn =>
    obtain ⟨bits, hbits, rfl⟩ := Option.map_eq_some_iff.mp hturn
    exact .inr ⟨.fetchTurn now f, hbits, by simp, by simp⟩
  | dropFetch hstep | markDelivery hstep | markFetch hstep =>
    obtain ⟨bits, hbits, rfl⟩ := Option.map_eq_some_iff.mp hstep
    exact .inr ⟨_, hbits, by simp, by simp⟩
  | poll t =>
    -- a poll of bits that nobody holds does nothing
    unfold pollBits
    split
    · exact .inl rfl
    · exact hreport _ t _ rfl
  | leave t =>
    unfold leaveBits
    split
    · exact .inl rfl
    · exact hreport _ t _ rfl

/-- Whatever happens to a build is a step at the place of its bits, or nothing there. -/
theorem Moves.rendezvous {s : CoordinatorSettings} {b b' : Build} {y : BuildStep}
    (h : b.Moves s y b') (hsound : b.bits.Sound) :
    b'.bits = b.bits ∨
      ∃ x, b.bits.step? x = some b'.bits ∧ ∀ now t, x = .deliveryTurn now t →
        ∃ u, y = .uploadTurn now u ∧ b.stage? u = some (.delivering t) := by
  cases h with
  | @offer now u x => exact .inr ⟨.deliver x.payload (now + s.pickupTimeout), rfl, by simp⟩
  | @dropDelivering u t x _ _ hwaits =>
    exact .inr ⟨.cancelDelivery t, if_pos hwaits, by simp⟩
  | bits hbits =>
    exact (hbits.rendezvous hsound).imp_right fun ⟨x, hstep, _, hturn⟩ => ⟨x, hstep, hturn⟩
  | ask | turnDown | accept | finish => exact .inl (bits_setPhase b _)
  | start | claim | refuse | unprepared | answer | skipSession | keepSession | clash | settle
  | dropAsking | complete | log => exact .inl rfl

/-- What has been delivered and fetched stays so. -/
theorem Moves.later {s : CoordinatorSettings} {b b' : Build} {y : BuildStep}
    (h : b.Moves s y b') (hsound : b.bits.Sound) : b.bits.Later b'.bits := by
  rcases h.rendezvous hsound with hsame | ⟨x, hstep, _⟩
  · exact hsame ▸ .refl b.bits
  · exact .of_moves (Rendezvous.moves_of_step? hstep)

theorem BitsMoves.single {s : CoordinatorSettings} {b b' : Build} {y : BuildStep}
    (h : b.BitsMoves s y b') (hsingle : b.bits.Single) :
    b'.bits.Single ∧ b'.bits.deliveries.length = b.bits.deliveries.length := by
  rcases h.rendezvous hsingle.sound with heq | ⟨x, hstep, hx, _⟩
  · rw [heq]
    exact ⟨hsingle, rfl⟩
  · exact hsingle.of_moves (Rendezvous.moves_of_step? hstep) hx

/-! ## §3 The Invariant -/

/-- One upload at most is responsible for the phase of the build; the session and the bits are those
of that upload. -/
structure Delegated (b : Build) : Prop where
  one : ∀ {u v : Nat} {x y : UploadStage}, b.stage? u = some x → b.stage? v = some y →
    x.phase? ≠ none → y.phase? ≠ none → u = v
  phase : b.record.phase = .completed ∨
    (∃ u x, b.stage? u = some x ∧ x.phase? = some b.record.phase) ∨
    (b.record.phase.isClaimable = true ∧ ∀ u x, b.stage? u = some x → x.phase? = none)
  session : b.record.session ≠ none → ∃ u x, b.stage? u = some x ∧ x.IsKept
  single : b.bits.Single
  offered : b.bits.deliveries ≠ [] → ∃ u x, b.stage? u = some x ∧ x.IsOffered
  noClash : ∀ u id, b.stage? u ≠ some (.ended (.error (.registry (.sessionAlreadySet id))))

theorem delegated_fresh (record : BuildRecord) (hphase : record.phase = .created)
    (hsession : record.session = none) : (fresh record).Delegated := by
  have hnone : ∀ u, (fresh record).stage? u = none := fun u => by simp [stage?, fresh]
  refine ⟨?_, .inr (.inr ⟨by simp [fresh, hphase, Phase.isClaimable], ?_⟩), ?_, .empty, ?_, ?_⟩
  · intro u v x y hu
    simp [hnone] at hu
  · intro u x hu
    simp [hnone] at hu
  · intro hne
    exact absurd hsession hne
  · intro hne
    exact absurd rfl hne
  · intro u id hu
    simp [hnone] at hu

namespace Delegated

variable {b b' : Build} {u : Nat} {a a' : UploadStage}

/-- The upload that is responsible for a phase, if there is one, has brought the build to it. -/
theorem phase_of (h : b.Delegated) (hu : b.stage? u = some a) (ha : a.phase? ≠ none) :
    b.record.phase = .completed ∨ a.phase? = some b.record.phase := by
  rcases h.phase with hdone | ⟨v, x, hv, hx⟩ | ⟨_, hidle⟩
  · exact .inl hdone
  · have hne : x.phase? ≠ none := by rw [hx]; simp
    obtain rfl := h.one hu hv ha hne
    obtain rfl : a = x := Option.some.inj (hu.symm.trans hv)
    exact .inr hx
  · exact absurd (hidle u a hu) ha

/-- A recorded session belongs to the upload that is responsible for the phase. -/
theorem kept_of_session (h : b.Delegated) (hu : b.stage? u = some a) (ha : a.phase? ≠ none)
    (hsession : b.record.session ≠ none) : a.IsKept := by
  obtain ⟨v, x, hv, hx⟩ := h.session hsession
  obtain rfl := h.one hu hv ha (UploadStage.IsGranted.of_kept hx).phase?_ne
  obtain rfl : a = x := Option.some.inj (hu.symm.trans hv)
  exact hx

/-- Offered bits belong to the upload that is responsible for the phase. -/
theorem offered_of_deliveries (h : b.Delegated) (hu : b.stage? u = some a) (ha : a.phase? ≠ none)
    (hbits : b.bits.deliveries ≠ []) : a.IsOffered := by
  obtain ⟨v, x, hv, hx⟩ := h.offered hbits
  have hgranted : x.IsGranted := .of_kept (.of_offered hx)
  obtain rfl := h.one hu hv ha hgranted.phase?_ne
  obtain rfl : a = x := Option.some.inj (hu.symm.trans hv)
  exact hx

/-- In a phase in which the build can be claimed nobody is responsible for it. -/
theorem idle_of_claimable (h : b.Delegated) (hphase : b.record.phase.isClaimable = true) :
    ∀ v x, b.stage? v = some x → x.phase? = none := by
  intro v x hv
  by_contra hne
  rcases h.phase_of hv hne with hdone | hx
  · rw [hdone] at hphase
    cases hphase
  · -- no upload brings its build to a phase in which it can be claimed
    have hclaim : ∀ p : Phase, x.phase? = some p → p.isClaimable = false := by
      intro p hp
      unfold UploadStage.phase? at hp
      split at hp
      all_goals first | (cases hp; done) | (cases hp; rfl)
    rw [hclaim _ hx] at hphase
    cases hphase

private theorem deliveries_ne_nil
    (hlength : b'.bits.deliveries.length = b.bits.deliveries.length)
    (hne : b'.bits.deliveries ≠ []) : b.bits.deliveries ≠ [] := by
  intro hnil
  rw [hnil] at hlength
  exact hne (List.length_eq_zero_iff.mp hlength)

/-- A change beside the upload that is responsible for the phase keeps the invariant. -/
theorem aside (h : b.Delegated)
    (hstage : ∀ v x, x.phase? ≠ none → (b'.stage? v = some x ↔ b.stage? v = some x))
    (hclash : ∀ v id, b'.stage? v ≠ some (.ended (.error (.registry (.sessionAlreadySet id)))))
    (hphase : b'.record.phase = .completed ∨ b'.record.phase = b.record.phase)
    (hsession : b'.record.session = b.record.session) (hsingle : b'.bits.Single)
    (hlength : b'.bits.deliveries.length = b.bits.deliveries.length) : b'.Delegated := by
  have hkept : ∀ {x : UploadStage}, x.IsKept → x.phase? ≠ none :=
    fun hx => (UploadStage.IsGranted.of_kept hx).phase?_ne
  -- whoever is responsible for something was so before, and still is
  refine ⟨?_, ?_, ?_, hsingle, ?_, hclash⟩
  · intro v w x y hv hw hx hy
    exact h.one ((hstage v x hx).mp hv) ((hstage w y hy).mp hw) hx hy
  · rcases hphase with hdone | hsame
    · exact .inl hdone
    · rw [hsame]
      rcases h.phase with hdone | ⟨v, x, hv, hx⟩ | ⟨hclaim, hidle⟩
      · exact .inl hdone
      · have hne : x.phase? ≠ none := by rw [hx]; simp
        exact .inr (.inl ⟨v, x, (hstage v x hne).mpr hv, hx⟩)
      · refine .inr (.inr ⟨hclaim, ?_⟩)
        intro v x hv
        -- an upload responsible now would have been responsible before
        by_contra hne
        exact hne (hidle v x ((hstage v x hne).mp hv))
  · intro hne
    rw [hsession] at hne
    obtain ⟨v, x, hv, hx⟩ := h.session hne
    exact ⟨v, x, (hstage v x (hkept hx)).mpr hv, hx⟩
  · intro hne
    obtain ⟨v, x, hv, hx⟩ := h.offered (deliveries_ne_nil hlength hne)
    exact ⟨v, x, (hstage v x (hkept (.of_offered hx))).mpr hv, hx⟩

/-- A build has the invariant if one upload is responsible for all there is. -/
private theorem of_owner (h : b.Delegated) (hself : b'.stage? u = some a')
    (hothers : ∀ v, u ≠ v → b'.stage? v = b.stage? v)
    (hidle : ∀ v x, u ≠ v → b.stage? v = some x → x.phase? = none)
    (hclash : ∀ id, a' ≠ .ended (.error (.registry (.sessionAlreadySet id))))
    (hphase : b'.record.phase = .completed ∨ a'.phase? = some b'.record.phase ∨
      (b'.record.phase.isClaimable = true ∧ a'.phase? = none))
    (hsession : b'.record.session ≠ none → a'.IsKept) (hsingle : b'.bits.Single)
    (hoffered : b'.bits.deliveries ≠ [] → a'.IsOffered) : b'.Delegated := by
  have hidle' : ∀ v x, u ≠ v → b'.stage? v = some x → x.phase? = none := by
    intro v x hne hv
    rw [hothers v hne] at hv
    exact hidle v x hne hv
  have howner : ∀ {v : Nat} {x : UploadStage}, b'.stage? v = some x → x.phase? ≠ none → u = v := by
    intro v x hv hx
    by_contra hne
    exact hx (hidle' v x hne hv)
  -- all that the invariant asks for is found at this upload
  refine ⟨?_, ?_, ?_, hsingle, ?_, ?_⟩
  · intro v w x y hv hw hx hy
    exact (howner hv hx).symm.trans (howner hw hy)
  · rcases hphase with hdone | hown | ⟨hclaim, hnone⟩
    · exact .inl hdone
    · exact .inr (.inl ⟨u, a', hself, hown⟩)
    · refine .inr (.inr ⟨hclaim, ?_⟩)
      intro v x hv
      -- the upload itself claims no phase either, and the others are as before
      by_cases hne : u = v
      · subst hne
        obtain rfl : a' = x := Option.some.inj (hself.symm.trans hv)
        exact hnone
      · exact hidle' v x hne hv
  · intro hne
    exact ⟨u, a', hself, hsession hne⟩
  · intro hne
    exact ⟨u, a', hself, hoffered hne⟩
  · intro v id hv
    by_cases hne : u = v
    · subst hne
      exact hclash id (Option.some.inj (hself.symm.trans hv))
    · rw [hothers v hne] at hv
      exact h.noClash v id hv

/-- A change by the upload that is responsible for the phase keeps the invariant if it leaves the
build in the phase that it is then responsible for, or in one in which it can be claimed. -/
theorem advance (h : b.Delegated) (hu : b.stage? u = some a) (ha : a.phase? ≠ none)
    (hself : b'.stage? u = some a') (hothers : ∀ v, u ≠ v → b'.stage? v = b.stage? v)
    (hclash : ∀ id, a' ≠ .ended (.error (.registry (.sessionAlreadySet id))))
    (hphase : b'.record.phase = .completed ∨ a'.phase? = some b'.record.phase ∨
      (b'.record.phase.isClaimable = true ∧ a'.phase? = none))
    (hsession : b'.record.session = b.record.session ∧ (a.IsKept → a'.IsKept) ∨ a'.IsKept)
    (hsingle : b'.bits.Single)
    (hoffered : b'.bits.deliveries.length = b.bits.deliveries.length ∧
      (a.IsOffered → a'.IsOffered) ∨ a'.IsOffered) : b'.Delegated := by
  refine h.of_owner hself hothers ?_ hclash hphase ?_ hsingle ?_
  · -- two uploads responsible for a phase would be one and the same
    intro v x hne hv
    by_contra hx
    exact hne (h.one hu hv ha hx)
  · intro hne
    -- the session was kept by this upload already, or is from now on
    rcases hsession with ⟨hsame, hkeep⟩ | hkept
    · exact hkeep (h.kept_of_session hu ha (hsame ▸ hne))
    · exact hkept
  · intro hne
    rcases hoffered with ⟨hlength, hkeep⟩ | hoffered
    · exact hkeep (h.offered_of_deliveries hu ha (deliveries_ne_nil hlength hne))
    · exact hoffered

/-- An upload that moves on within the phase stays responsible for it. -/
private theorem phase_of_same (h : b.Delegated) (hu : b.stage? u = some a) (ha : a.phase? ≠ none)
    (hsame : a'.phase? = a.phase?) :
    b.record.phase = .completed ∨ a'.phase? = some b.record.phase ∨
      (b.record.phase.isClaimable = true ∧ a'.phase? = none) := by
  rcases h.phase_of hu ha with hdone | hown
  · exact .inl hdone
  · exact .inr (.inl (hsame.trans hown))

/-- The upload that is responsible for the phase moves on within it. -/
private theorem stay (h : b.Delegated) (hu : b.stage? u = some a) (ha : a.phase? ≠ none)
    (hsame : a'.phase? = a.phase?) (hkept : a.IsKept → a'.IsKept)
    (hoffered : a.IsOffered → a'.IsOffered)
    (hclash : ∀ id, a' ≠ .ended (.error (.registry (.sessionAlreadySet id)))) :
    (b.setUpload u a').Delegated := by
  exact h.advance hu ha (stage?_setUpload_self hu a') (fun _ => stage?_setUpload_ne a') hclash
    (h.phase_of_same hu ha hsame) (.inl ⟨rfl, hkept⟩) h.single (.inl ⟨rfl, hoffered⟩)

/-- The upload that is responsible for the phase moves the build to another one. -/
private theorem shift (h : b.Delegated) (hu : b.stage? u = some a) (ha : a.phase? ≠ none)
    {p : Phase} (hp : a'.phase? = some p ∨ p.isClaimable = true ∧ a'.phase? = none)
    (hkept : a.IsKept → a'.IsKept) (hoffered : a.IsOffered → a'.IsOffered)
    (hclash : ∀ id, a' ≠ .ended (.error (.registry (.sessionAlreadySet id)))) :
    ((b.setPhase p).setUpload u a').Delegated := by
  have hself : ((b.setPhase p).setUpload u a').stage? u = some a' :=
    stage?_setUpload_self ((stage?_setPhase b p u).trans hu) a'
  have hothers : ∀ v, u ≠ v → ((b.setPhase p).setUpload u a').stage? v = b.stage? v :=
    fun v huv => (stage?_setUpload_ne a' huv).trans (stage?_setPhase b p v)
  have hbits : ((b.setPhase p).setUpload u a').bits = b.bits := bits_setPhase b p
  refine h.advance hu ha hself hothers hclash ?_ (.inl ⟨session_setPhase b p, hkept⟩) ?_
    (.inl ⟨?_, hoffered⟩)
  -- a result that has been recorded in the meantime is not overwritten
  · have hphase : (b.setPhase p).record.phase = .completed ∨ (b.setPhase p).record.phase = p := by
      unfold setPhase
      split
      · rename_i hdone
        exact .inl hdone
      · exact .inr rfl
    rcases hphase with hdone | heq
    · exact .inl hdone
    · rw [record_setUpload, heq]
      exact .inr hp
  · rw [hbits]
    exact h.single
  · rw [hbits]

/-- An upload may claim the build if nobody is responsible for its phase. -/
theorem claim (h : b.Delegated) (hu : b.stage? u = some a)
    (hphase : b.record.phase.isClaimable = true) :
    ({ b with record := { b.record with phase := .bitsPending } }.setUpload u .preparing).Delegated := by
  have hidle := h.idle_of_claimable hphase
  have hnone : ∀ {v : Nat} {y : UploadStage}, b.stage? v = some y → ¬y.IsKept := by
    intro v y hv hkept
    exact (UploadStage.IsGranted.of_kept hkept).phase?_ne (hidle v y hv)
  -- only the phase and the upload differ from the build as it was
  refine h.of_owner (stage?_setUpload_self (a := a) hu _) (fun _ => stage?_setUpload_ne _)
    (fun v x _ => hidle v x) (by simp) (.inr (.inl rfl)) ?_ h.single ?_
  · intro hne
    -- a session or bits would belong to an upload responsible for a phase
    obtain ⟨v, y, hv, hkept⟩ := h.session hne
    exact absurd hkept (hnone hv)
  · intro hne
    obtain ⟨v, y, hv, hoffered⟩ := h.offered hne
    exact absurd (.of_offered hoffered) (hnone hv)

/-- An upload that is responsible for nothing moves on to a stage that is not either. -/
private theorem pass (h : b.Delegated) (hu : b.stage? u = some a) (ha : a.phase? = none)
    (ha' : a'.phase? = none)
    (hclash : ∀ id, a' ≠ .ended (.error (.registry (.sessionAlreadySet id)))) :
    (b.setUpload u a').Delegated := by
  refine h.aside ?_ ?_ (.inr rfl) rfl h.single rfl
  -- neither stage has a phase, so none of those that matter comes or goes
  · intro v x hx
    by_cases hne : u = v
    · subst hne
      rw [stage?_setUpload_self hu, hu]
      constructor
      · intro hv
        exact absurd ((Option.some.inj hv) ▸ ha') hx
      · intro hv
        exact absurd ((Option.some.inj hv) ▸ ha) hx
    · rw [stage?_setUpload_ne a' hne]
  -- the only clash there could be is excluded by `hclash`
  · intro v id hv
    by_cases hne : u = v
    · subst hne
      rw [stage?_setUpload_self hu] at hv
      exact hclash id (Option.some.inj hv)
    · rw [stage?_setUpload_ne a' hne] at hv
      exact h.noClash v id hv

/-- A change that no upload takes part in keeps the invariant. -/
private theorem beside (h : b.Delegated) (huploads : b'.uploads = b.uploads)
    (hphase : b'.record.phase = .completed ∨ b'.record.phase = b.record.phase)
    (hsession : b'.record.session = b.record.session)
    (hbits : b'.bits.Single ∧ b'.bits.deliveries.length = b.bits.deliveries.length) :
    b'.Delegated := by
  refine h.aside ?_ ?_ hphase hsession hbits.1 hbits.2
  · intro v x _
    rw [stage?_of_uploads_eq huploads]
  · intro v id
    rw [stage?_of_uploads_eq huploads]
    exact h.noClash v id

theorem start (h : b.Delegated) (p : Payload) : (b.startUpload p).Delegated := by
  refine h.aside ?_ ?_ (.inr rfl) rfl h.single rfl
  · intro v x hx
    rw [stage?_startUpload]
    split
    · rename_i hv
      have hnone : b.stage? v = none := by simp [stage?, hv]
      rw [hnone]
      constructor
      · intro heq
        cases heq
        exact absurd rfl hx
      · intro heq
        cases heq
    · exact Iff.rfl
  · intro v id
    rw [stage?_startUpload]
    split
    · simp
    · exact h.noClash v id

/-- Every change of a build keeps the invariant. -/
theorem of_moves {s : CoordinatorSettings} {y : BuildStep} (h : b.Delegated)
    (hm : b.Moves s y b') : b'.Delegated := by
  cases hm with
  | start p => exact h.start p
  | claim hx hs hphase => exact h.claim (stage?_of_upload hx hs) hphase
  | refuse hx hs _ => exact h.pass (stage?_of_upload hx hs) rfl rfl (by simp)
  | unprepared hx hs _ =>
    exact h.stay (stage?_of_upload hx hs) (by simp [UploadStage.phase?]) rfl
      (fun hkept => hkept.elim) (fun hoffered => hoffered.elim) (by simp)
  | ask hx hs _ =>
    exact h.shift (stage?_of_upload hx hs) (by simp [UploadStage.phase?]) (.inl rfl)
      (fun hkept => hkept.elim) (fun hoffered => hoffered.elim) (by simp)
  | answer verdict hx hs =>
    exact h.stay (stage?_of_upload hx hs) (by simp [UploadStage.phase?]) rfl
      (fun hkept => hkept.elim) (fun hoffered => hoffered.elim) (by simp)
  | turnDown hx hs =>
    -- the upload gives the build back
    exact h.shift (stage?_of_upload hx hs) (by simp [UploadStage.phase?]) (.inr ⟨rfl, rfl⟩)
      (fun hkept => hkept.elim) (fun hoffered => hoffered.elim) (by simp)
  | skipSession hx hs _ =>
    exact h.stay (stage?_of_upload hx hs) (by simp [UploadStage.phase?]) rfl
      (fun _ => trivial) (fun hoffered => hoffered.elim) (by simp)
  | @keepSession _ u _ _ _ hx hs _ _ =>
    have hu := stage?_of_upload hx hs
    exact h.advance hu (by simp [UploadStage.phase?]) (stage?_setUpload_self hu _)
      (fun _ => stage?_setUpload_ne _) (by simp)
      (h.phase_of_same hu (by simp [UploadStage.phase?]) rfl) (.inr trivial) h.single
      (.inl ⟨rfl, fun hoffered => hoffered.elim⟩)
  | clash hx hs _ hsession =>
    -- the endpoints would be those of another upload that has been accepted
    exact (h.kept_of_session (stage?_of_upload hx hs) (by simp [UploadStage.phase?]) hsession).elim
  | accept hx hs =>
    exact h.shift (stage?_of_upload hx hs) (by simp [UploadStage.phase?]) (.inl rfl)
      (fun _ => trivial) (fun hoffered => hoffered.elim) (by simp)
  | @offer _ u x hx hs =>
    have hu := stage?_of_upload hx hs
    -- offered bits would be those of this upload, which has not offered any yet
    have hnone : b.bits.deliveries = [] := by
      by_contra hne
      exact (h.offered_of_deliveries hu (by simp [UploadStage.phase?]) hne).elim
    exact h.advance hu (by simp [UploadStage.phase?]) (stage?_setUpload_self hu _)
      (fun _ => stage?_setUpload_ne _) (by simp)
      (h.phase_of_same hu (by simp [UploadStage.phase?]) rfl) (.inr trivial)
      (h.single.startDelivery hnone _ _) (.inr trivial)
  | @settle _ u t x res hx hs _ =>
    have hu := stage?_of_upload hx hs
    -- however the delivery ends, the build stays accepted
    have hafter : (afterDelivery res).phase? = some .accepted ∧ (afterDelivery res).IsOffered ∧
        ∀ id, afterDelivery res ≠ .ended (.error (.registry (.sessionAlreadySet id))) := by
      cases res with
      | drained o => cases o <;> exact ⟨rfl, trivial, by simp [afterDelivery]⟩
      | notFetched => exact ⟨rfl, trivial, by simp [afterDelivery]⟩
    exact h.stay hu (by simp [UploadStage.phase?]) hafter.1 (fun _ => .of_offered hafter.2.1)
      (fun _ => hafter.2.1) hafter.2.2
  | finish hx hs =>
    exact h.shift (stage?_of_upload hx hs) (by simp [UploadStage.phase?]) (.inl rfl)
      (fun _ => trivial) (fun _ => trivial) (by simp)
  | dropAsking hx hs =>
    exact h.stay (stage?_of_upload hx hs) (by simp [UploadStage.phase?]) rfl
      (fun hkept => hkept.elim) (fun hoffered => hoffered.elim) (by simp)
  | @dropDelivering u t x hx hs hwaits =>
    have hu := stage?_of_upload hx hs
    have hstep : b.bits.step? (.cancelDelivery t) = some (b.bits.cancelDelivery t) := by
      simp only [Rendezvous.step?, hwaits, if_true]
    have hbits := h.single.of_moves (Rendezvous.moves_of_step? hstep) (by simp)
    exact h.advance hu (by simp [UploadStage.phase?]) (stage?_setUpload_self hu _)
      (fun _ => stage?_setUpload_ne _) (by simp)
      (h.phase_of_same hu (by simp [UploadStage.phase?]) rfl) (.inr trivial) hbits.1 (.inr trivial)
  | bits hbits =>
    obtain ⟨hrecord, huploads, _⟩ := hbits.frame
    exact h.beside huploads (.inr (by rw [hrecord])) (by rw [hrecord]) (hbits.single h.single)
  | complete => exact h.beside rfl (.inl rfl) rfl ⟨h.single, rfl⟩
  | log => exact h.beside rfl (.inr rfl) rfl ⟨h.single, rfl⟩

theorem of_reaches {s : CoordinatorSettings} (h : b.Delegated) (hreach : b.Reaches s b') :
    b'.Delegated := by
  induction hreach with
  | refl => exact h
  | tail _ hm ih =>
    obtain ⟨y, hm⟩ := hm
    exact ih.of_moves hm

end Delegated

/-! ## §4 After an Acceptance -/

/-- An upload that the executor has said yes to stays so. -/
theorem granted_of_moves {s : CoordinatorSettings} {b b' : Build} {y : BuildStep}
    (h : b.Delegated) (hm : b.Moves s y b') {v : Nat} {x : UploadStage}
    (hv : b.stage? v = some x) (hx : x.IsGranted) :
    ∃ x', b'.stage? v = some x' ∧ x'.IsGranted := by
  obtain ⟨x', hv', heq | hnext⟩ := next_of_moves hm hv
  · exact ⟨x', hv', heq ▸ hx⟩
  · refine ⟨x', hv', ?_⟩
    cases hnext with
    | claim | refuse | unprepared | ask | answer | turnDown | dropAsking => exact hx.elim
    | keep | accept | offer | finish | dropDelivering => trivial
    | clash => exact absurd hv' ((h.of_moves hm).noClash v _)
    | @settle _ _ res =>
      cases res with
      | drained o => cases o <;> trivial
      | notFetched => trivial

theorem granted_of_reaches {s : CoordinatorSettings} {b b' : Build} (h : b.Delegated)
    (hreach : b.Reaches s b') {v : Nat} {x : UploadStage} (hv : b.stage? v = some x)
    (hx : x.IsGranted) : ∃ y, b'.stage? v = some y ∧ y.IsGranted := by
  induction hreach with
  | refl => exact ⟨x, hv, hx⟩
  | tail hreach hm ih =>
    obtain ⟨y, hy, hgranted⟩ := ih
    obtain ⟨_, hm⟩ := hm
    exact granted_of_moves (h.of_reaches hreach) hm hy hgranted

/-- As long as the executor is asked on behalf of an upload, no upload has been accepted. -/
theorem Delegated.not_asking (h : Delegated b) {v : Nat} {x : UploadStage}
    (hv : b.stage? v = some x) (hx : x.IsGranted) (u : Nat) : b.isAsking u = false := by
  by_contra hasking
  obtain ⟨d, hu⟩ := (b.isAsking_iff u).mp (by simpa using hasking)
  obtain rfl := h.one hu hv (by simp [UploadStage.phase?]) hx.phase?_ne
  obtain rfl : .submitting d = x := Option.some.inj (hu.symm.trans hv)
  exact hx

end Build

namespace Coordinator

variable {settings : CoordinatorSettings} {steps : List CoordinatorStep} {c : Coordinator}
variable {id : BuildId} {b : Build}

/-- Every build of a run keeps the invariant. -/
theorem delegated_of_play (h : (Coordinator.mk settings .empty).play steps = some c)
    (hb : c.registry.find? id = some b) : b.Delegated := by
  obtain ⟨_, now, sub, hreach⟩ := born_of_play h hb
  exact (Build.delegated_fresh (.fresh id now sub) rfl rfl).of_reaches hreach

/-- What an answer of the executor does to the upload that waits for it. -/
private theorem stage?_of_answer {c₁ : Coordinator} {u : Nat}
    {verdict : Except ExecutorError SessionEndpoints} (hb : c.registry.find? id = some b)
    (h : c.step? (.build id (.answer u verdict)) = some c₁) :
    ∃ b₁ d, c₁.registry.find? id = some b₁ ∧ b₁.stage? u = some (.answered d verdict) := by
  obtain ⟨b₁, hb₁, _⟩ := reaches_of_step? h hb
  have hanswer : ∀ b₀ b₁ : Build,
      (if b₀.isAsking u then some (b₀.answerUpload u verdict) else none) = some b₁ →
        ∃ x d, b₀.uploads[u]? = some x ∧ x.stage = .submitting d ∧
          b₁ = b₀.setUpload u (.answered d verdict) := by
    intro b₀ b₁ hb₁
    split at hb₁
    · rename_i hasking
      obtain ⟨x, d, hx, hs, heq⟩ := Build.moves_of_answerUpload hasking verdict
      exact ⟨x, d, hx, hs, by rw [← heq, Option.some.inj hb₁]⟩
    · cases hb₁
  -- the identifier stays, so the build found afterwards is the one that was answered
  have hkept : ∀ b₀ b₁ : Build,
      (if b₀.isAsking u then some (b₀.answerUpload u verdict) else none) = some b₁ →
        b₁.id = b₀.id := by
    intro b₀ b₁ hb₁
    obtain ⟨_, _, _, _, rfl⟩ := hanswer b₀ b₁ hb₁
    rfl
  obtain ⟨x, d, hx, hs, rfl⟩ := hanswer b b₁ (find?_of_modify? h hkept hb hb₁)
  exact ⟨_, d, hb₁, Build.stage?_setUpload_self (Build.stage?_of_upload hx hs) _⟩

/-- **A build is delegated once.** At any time of any run, the executor is asked on behalf of one
upload of a build at most; after it has said yes it is never asked again for this build; no more
than one payload is ever offered, and no delivery waits for the slot; and no upload finds that
endpoints have been recorded before. -/
theorem delegated_once (h : (Coordinator.mk settings .empty).play steps = some c)
    (hb : c.registry.find? id = some b) :
    (∀ u v, b.isAsking u = true → b.isAsking v = true → u = v) ∧
    (∀ u e c₁, c.step? (.build id (.answer u (.ok e))) = some c₁ →
      ∀ more c₂ b₂, c₁.play more = some c₂ → c₂.registry.find? id = some b₂ →
        ∀ v, b₂.isAsking v = false) ∧
    b.bits.deliveries.length ≤ 1 ∧
    (∀ t woken, b.bits.deliveryStage? t ≠ some (.parked woken)) ∧
    (∀ u id', b.stage? u ≠ some (.ended (.error (.registry (.sessionAlreadySet id'))))) := by
  have hdelegated : b.Delegated := delegated_of_play h hb
  refine ⟨?_, ?_, hdelegated.single.atMostOne, hdelegated.single.unparked, hdelegated.noClash⟩
  · intro u v hu hv
    obtain ⟨d, hu'⟩ := (b.isAsking_iff u).mp hu
    obtain ⟨d', hv'⟩ := (b.isAsking_iff v).mp hv
    exact hdelegated.one hu' hv' (by simp [UploadStage.phase?]) (by simp [UploadStage.phase?])
  · intro u e c₁ hanswer more c₂ b₂ hmore hb₂ v
    -- the upload that got the yes keeps it, and shuts out every other one
    obtain ⟨b₁, d, hb₁, hstage⟩ := stage?_of_answer hb hanswer
    have hplay₁ : (Coordinator.mk settings .empty).play (steps ++ [.build id (.answer u (.ok e))]) =
        some c₁ := Runs.run_concat.mpr ⟨c, h, hanswer⟩
    have hdelegated₁ : b₁.Delegated := delegated_of_play hplay₁ hb₁
    obtain ⟨_, b₂', hb₂', hreach⟩ := reaches_of_play hmore hb₁
    obtain rfl : b₂' = b₂ := Option.some.inj (hb₂'.symm.trans hb₂)
    have hgranted : (UploadStage.answered d (.ok e)).IsGranted := trivial
    obtain ⟨y, hy, hyes⟩ := Build.granted_of_reaches hdelegated₁ hreach hstage hgranted
    exact (hdelegated₁.of_reaches hreach).not_asking hy hyes v

/-- A coordinator that executors reach under a short name. -/
def smallShop : Coordinator :=
  ⟨⟨"h:1", 1000, 60000⟩, .empty⟩

/-- Two uploads for one build; the first one has asked the executor, the second one is refused. -/
def eagerUploads : List CoordinatorStep :=
  [.create ⟨7⟩ ⟨⟨2026, 1, 1⟩, 0, 0⟩ ⟨"image", "", "", .empty⟩,
    .build ⟨7⟩ (.upload ⟨none, .ofBytes [1]⟩), .build ⟨7⟩ (.upload ⟨none, .ofBytes [2]⟩),
    .build ⟨7⟩ (.uploadTurn 0 0), .build ⟨7⟩ (.uploadTurn 0 1), .build ⟨7⟩ (.uploadTurn 0 0)]

/-- The first upload goes on to offer its bits, and a third one is started. -/
def lateUpload : List CoordinatorStep :=
  [.build ⟨7⟩ (.uploadTurn 0 0), .build ⟨7⟩ (.uploadTurn 0 0), .build ⟨7⟩ (.uploadTurn 0 0),
    .build ⟨7⟩ (.upload ⟨none, .ofBytes [3]⟩), .build ⟨7⟩ (.uploadTurn 5 2)]

/-- After the yes to the first upload no upload is waiting for an answer, and one payload has been
offered. -/
theorem delegated_once_eagerUploads :
    ∃ c b c₁ c₂ b₂, smallShop.play eagerUploads = some c ∧ c.registry.find? ⟨7⟩ = some b ∧
      b.isAsking 0 = true ∧ (∀ v, b.isAsking v = true → v = 0) ∧
      c.step? (.build ⟨7⟩ (.answer 0 (.ok .none))) = some c₁ ∧ c₁.play lateUpload = some c₂ ∧
      c₂.registry.find? ⟨7⟩ = some b₂ ∧ (∀ v, b₂.isAsking v = false) ∧
      b₂.bits.deliveries.length = 1 := by
  have hlast : ((((smallShop.play eagerUploads).bind
      (·.step? (.build ⟨7⟩ (.answer 0 (.ok .none))))).bind (·.play lateUpload)).bind
      (·.registry.find? ⟨7⟩)).map (·.bits.deliveries.length) = some 1 := by decide +kernel
  obtain ⟨b₂, hb₂', hone⟩ := Option.map_eq_some_iff.mp hlast
  obtain ⟨c₂, hc₂', hb₂⟩ := Option.bind_eq_some_iff.mp hb₂'
  obtain ⟨c₁, hc₁', hc₂⟩ := Option.bind_eq_some_iff.mp hc₂'
  obtain ⟨c, hc, hc₁⟩ := Option.bind_eq_some_iff.mp hc₁'
  have hasks : ((smallShop.play eagerUploads).bind (·.registry.find? ⟨7⟩)).map (·.isAsking 0) =
      some true := by decide +kernel
  rw [hc, Option.bind_some] at hasks
  obtain ⟨b, hb, hasking⟩ := Option.map_eq_some_iff.mp hasks
  obtain ⟨hexclusive, hnever, _⟩ := delegated_once hc hb
  exact ⟨c, b, c₁, c₂, b₂, hc, hb, hasking, fun v hv => hexclusive v 0 hv hasking, hc₁, hc₂, hb₂,
    hnever 0 .none c₁ hc₁ lateUpload c₂ b₂ hc₂ hb₂, hone⟩

end Coordinator

end BuildBroker
