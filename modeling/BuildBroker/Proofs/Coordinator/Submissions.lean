import BuildBroker.Coordinator.Progress
import BuildBroker.Proofs.Coordinator.Uploads

/-!
# What Was Submitted

A build keeps the name, the time and the submission that it was registered with, no build is ever
lost, and the executor is asked for exactly what was submitted.

Main statements:
- `Build.SameOrigin`: two states of a build that was registered once.
- `Build.sameOrigin_of_reaches`: nothing that happens to a build changes its origin.
- `Build.AsksFor`: whatever a build asks of the executor comes from its own submission.
- `Coordinator.registered_of_play`: a registration leaves a build that is there for good.
-/

namespace BuildBroker

/-! ## §1 One build -/

namespace Build

variable {s : CoordinatorSettings} {b b' : Build} {y : BuildStep}

/-- Two states of a build that was registered once. -/
structure SameOrigin (b b' : Build) : Prop where
  id : b'.record.id = b.record.id
  createdAt : b'.record.createdAt = b.record.createdAt
  submission : b'.record.submission = b.record.submission

theorem SameOrigin.refl (b : Build) : b.SameOrigin b := ⟨rfl, rfl, rfl⟩

theorem SameOrigin.trans {b'' : Build} (h : b.SameOrigin b') (h' : b'.SameOrigin b'') :
    b.SameOrigin b'' :=
  ⟨h'.id.trans h.id, h'.createdAt.trans h.createdAt, h'.submission.trans h.submission⟩

theorem sameOrigin_setPhase (b : Build) (p : Phase) : b.SameOrigin (b.setPhase p) := by
  unfold setPhase
  split <;> exact ⟨rfl, rfl, rfl⟩

theorem SameOrigin.setUpload (h : b.SameOrigin b') (u : Nat) (a : UploadStage) :
    b.SameOrigin (b'.setUpload u a) :=
  ⟨h.id, h.createdAt, h.submission⟩

/-- A step writes the phase, the status or the session of a record, if any of it. -/
theorem sameOrigin_of_moves (hm : b.Moves s y b') : b.SameOrigin b' := by
  cases hm with
  | bits hbits =>
    have hrecord := hbits.frame.1
    exact ⟨by rw [hrecord], by rw [hrecord], by rw [hrecord]⟩
  | ask | turnDown | accept | finish => exact (sameOrigin_setPhase b _).setUpload _ _
  | _ => exact ⟨rfl, rfl, rfl⟩

theorem sameOrigin_of_reaches (hreach : b.Reaches s b') : b.SameOrigin b' := by
  induction hreach with
  | refl => exact .refl b
  | tail _ hm ih =>
    obtain ⟨_, hm⟩ := hm
    exact ih.trans (sameOrigin_of_moves hm)

/-! ## §2 What the executor is asked for -/

/-- Whatever a build asks of the executor comes from its own submission. -/
def AsksFor (s : CoordinatorSettings) (b : Build) : Prop :=
  ∀ u d, b.stage? u = some (.submitting d) →
    ∃ urls, CallbackUrls.forBuild s.peer b.id = .ok urls ∧
      d = .ofSubmission b.id b.record.submission urls

/-- An upload that moves on to something else asks nothing. -/
private theorem asking_of_setUpload {u v : Nat} {a : UploadStage} {d : Delegation}
    (ha : ∀ d, a ≠ .submitting d) (h : (b.setUpload u a).stage? v = some (.submitting d)) :
    b.stage? v = some (.submitting d) := by
  rw [stage?_setUpload] at h
  obtain ⟨x, hx, heq⟩ := Option.map_eq_some_iff.mp h
  split at heq
  · exact absurd heq (ha d)
  · rw [hx, heq]

/-- A step asks the executor for the submission, or for nothing that was not asked for before. -/
theorem asking_of_moves (hm : b.Moves s y b') {v : Nat} {d : Delegation}
    (hv : b'.stage? v = some (.submitting d)) :
    b.stage? v = some (.submitting d) ∨
      ∃ urls, CallbackUrls.forBuild s.peer b.id = .ok urls ∧
        d = .ofSubmission b.id b.record.submission urls := by
  -- only one move makes an upload ask, and it asks with the record as it is then
  cases hm with
  | ask hx hs hurls =>
    rw [stage?_setUpload] at hv
    obtain ⟨x, hx, heq⟩ := Option.map_eq_some_iff.mp hv
    split at heq
    · cases heq
      exact .inr ⟨_, hurls, rfl⟩
    · rw [stage?_setPhase] at hx
      exact .inl (heq ▸ hx)
  | start p =>
    rw [stage?_startUpload] at hv
    split at hv
    · cases hv
    · exact .inl hv
  | bits hbits => exact .inl ((stage?_of_uploads_eq hbits.frame.2.1 v).symm.trans hv)
  | complete | log => exact .inl hv
  | turnDown | accept | finish =>
    have hold := asking_of_setUpload (by simp) hv
    rw [stage?_setPhase] at hold
    exact .inl hold
  -- what a delivery leaves an upload with is no question
  | settle _ _ _ =>
    refine .inl (asking_of_setUpload ?_ hv)
    intro d
    unfold afterDelivery
    split <;> simp
  | _ => exact .inl (asking_of_setUpload (by simp) hv)

theorem AsksFor.of_moves (h : b.AsksFor s) (hm : b.Moves s y b') : b'.AsksFor s := by
  have horigin := sameOrigin_of_moves hm
  intro u d hu
  rw [show b'.id = b.id from horigin.id, horigin.submission]
  rcases asking_of_moves hm hu with hold | hnew
  · exact h u d hold
  · exact hnew

theorem AsksFor.of_reaches (h : b.AsksFor s) (hreach : b.Reaches s b') : b'.AsksFor s := by
  induction hreach with
  | refl => exact h
  | tail _ hm ih =>
    obtain ⟨_, hm⟩ := hm
    exact ih.of_moves hm

theorem asksFor_fresh (record : BuildRecord) : (fresh record).AsksFor s := by
  intro u d hu
  cases hu

end Build

/-! ## §3 Runs -/

theorem Registry.mem_list {r : Registry} {id : BuildId} {b : Build} (h : r.find? id = some b) :
    b.record ∈ r.list := by
  have hmem : b ∈ r.builds := List.mem_of_find?_eq_some h
  obtain ⟨n, hn, hget⟩ := List.mem_iff_getElem.mp hmem
  refine List.mem_map.mpr ⟨(b, n), ?_, rfl⟩
  rw [List.mem_mergeSort, List.mem_zipIdx_iff_getElem?]
  simp [hn, hget]

namespace Coordinator

variable {settings : CoordinatorSettings} {c : Coordinator} {id : BuildId} {b : Build}
variable {steps : List CoordinatorStep}

theorem asksFor_of_play (h : (Coordinator.mk settings .empty).play steps = some c)
    (hb : c.registry.find? id = some b) : b.AsksFor settings := by
  obtain ⟨-, now, sub, hreach⟩ := born_of_play h hb
  exact (Build.asksFor_fresh _).of_reaches hreach

/-- A registration that is accepted leaves a fresh build. -/
theorem registered_of_step? {c' : Coordinator} {now : Time.Instant} {sub : Submission}
    (h : c.step? (.create id now sub) = some c') (hvalid : sub.validate = .ok ()) :
    c'.registry.find? id = some (.fresh (.fresh id now sub)) := by
  simp only [step?] at h
  split at h
  · cases h
  · rename_i hnew
    cases h
    have hnone : c.registry.find? id = none := by simpa using hnew
    have hfind := c.registry.find?_append (.fresh (.fresh id now sub)) id hnone
    simp only [create, Registry.create, hvalid]
    exact hfind.trans (if_pos rfl)

/-- A build that was registered is there for good, as it was submitted. -/
theorem registered_of_play (h : (Coordinator.mk settings .empty).play steps = some c)
    {before after : List CoordinatorStep} {now : Time.Instant} {sub : Submission}
    (hsteps : steps = before ++ .create id now sub :: after) (hvalid : sub.validate = .ok ()) :
    ∃ b, c.registry.find? id = some b ∧ (Build.fresh (.fresh id now sub)).SameOrigin b := by
  subst hsteps
  obtain ⟨c₁, -, hrest⟩ := Runs.run_append.mp h
  rw [List.foldlM_cons] at hrest
  obtain ⟨c₂, hcreate, hafter⟩ := Option.bind_eq_some_iff.mp hrest
  obtain ⟨-, b, hb, hreach⟩ := reaches_of_play hafter (registered_of_step? hcreate hvalid)
  exact ⟨b, hb, Build.sameOrigin_of_reaches hreach⟩

/-- What an upload asks for is what its stage says. -/
theorem asks_of_uploadProgress {now u : Nat} {d : Delegation}
    (h : c.uploadProgress now id u = .reached (.asks d)) :
    ∃ b, c.registry.find? id = some b ∧ b.stage? u = some (.submitting d) := by
  unfold uploadProgress at h
  split at h
  · cases h
  · rename_i payload d' hfind
    cases h
    obtain ⟨b, hb, hu⟩ := Option.bind_eq_some_iff.mp hfind
    exact ⟨b, hb, Build.stage?_of_upload hu rfl⟩
  · unfold Progress.ofTurn at h
    split at h <;> cases h

end Coordinator

end BuildBroker
