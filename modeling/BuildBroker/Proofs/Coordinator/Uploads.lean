import BuildBroker.Proofs.Coordinator.Moves

/-!
# How Uploads Go On

Each step of a coordinator moves on one upload at most, and an upload goes from stage to stage in one
direction only, whatever the other uploads of its build do.

Main statements:
- `Build.stage?`: how far an upload has come, looked up after each change.
- `UploadStage.Next`: the ways of an upload, each with the step that takes it.
- `Build.next_of_moves`, `Build.fresh_of_moves`: there are no other ways, and every upload starts
  before it has claimed the build.
- `UploadStage.IsOver.of_reaches`: an upload that is over stays where it is.
-/

namespace BuildBroker

/-! ## §1 Where Uploads Stand -/

namespace Build

/-- How far an upload has come. -/
def stage? (b : Build) (u : Nat) : Option UploadStage :=
  (b.uploads[u]?).map Upload.stage

theorem stage?_of_upload {b : Build} {u : Nat} {x : Upload} {s : UploadStage}
    (hx : b.uploads[u]? = some x) (hs : x.stage = s) : b.stage? u = some s := by
  simp only [stage?, hx, Option.map_some, hs]

theorem stage?_setUpload (b : Build) (u v : Nat) (s : UploadStage) :
    (b.setUpload u s).stage? v = (b.stage? v).map fun s' => if u = v then s else s' := by
  simp only [stage?, setUpload, List.getElem?_modify, Option.map_eq_map, Option.map_map]
  congr 1
  funext x
  by_cases huv : u = v <;> simp [huv]

theorem stage?_setUpload_self {b : Build} {u : Nat} {a : UploadStage} (hu : b.stage? u = some a)
    (s : UploadStage) : (b.setUpload u s).stage? u = some s := by
  rw [stage?_setUpload, hu]
  simp

theorem stage?_setUpload_ne {b : Build} {u v : Nat} (s : UploadStage) (huv : u ≠ v) :
    (b.setUpload u s).stage? v = b.stage? v := by
  rw [stage?_setUpload]
  simp [huv]

theorem stage?_startUpload (b : Build) (p : Payload) (v : Nat) :
    (b.startUpload p).stage? v = if v = b.uploads.length then some .claiming else b.stage? v := by
  simp only [stage?, startUpload, List.getElem?_append, List.getElem?_singleton]
  split
  · rw [if_neg (by omega)]
  · rename_i hlen
    by_cases hv : v = b.uploads.length
    · simp [hv]
    · rw [if_neg (by omega), if_neg hv, List.getElem?_eq_none (by omega)]

theorem stage?_of_uploads_eq {b b' : Build} (h : b'.uploads = b.uploads) (u : Nat) :
    b'.stage? u = b.stage? u := by
  simp only [stage?, h]

theorem isAsking_iff (b : Build) (u : Nat) :
    b.isAsking u = true ↔ ∃ d, b.stage? u = some (.submitting d) := by
  unfold isAsking stage?
  cases b.uploads[u]? with
  | none => simp
  | some x =>
    obtain ⟨payload, stage⟩ := x
    cases stage <;> simp

theorem stage?_setPhase (b : Build) (p : Phase) (u : Nat) : (b.setPhase p).stage? u = b.stage? u :=
  stage?_of_uploads_eq (uploads_setPhase b p) u

end Build

/-! ## §2 The Ways of an Upload -/

/-- How the upload `u` of the build `id` goes from one stage to the next, and by which step. -/
inductive UploadStage.Next (s : CoordinatorSettings) (id : BuildId) (u : Nat) :
    BuildStep → UploadStage → UploadStage → Prop where
  | claim {now : Nat} : Next s id u (.uploadTurn now u) .claiming .preparing
  | refuse {now : Nat} :
      Next s id u (.uploadTurn now u) .claiming (.ended (.error (.registry (.alreadyDelegated id))))
  | unprepared {now : Nat} {e : BuildError} :
      CallbackUrls.forBuild s.peer id = .error e →
      Next s id u (.uploadTurn now u) .preparing (.ended (.error (.internal e.message)))
  | ask {now : Nat} {d : Delegation} : Next s id u (.uploadTurn now u) .preparing (.submitting d)
  | answer {d : Delegation} {verdict : Except ExecutorError SessionEndpoints} :
      Next s id u (.answer u verdict) (.submitting d) (.answered d verdict)
  | turnDown {now : Nat} {d : Delegation} {e : ExecutorError} :
      Next s id u (.uploadTurn now u) (.answered d (.error e)) (.ended (.error (.executor e)))
  | keep {now : Nat} {d : Delegation} {e : SessionEndpoints} :
      Next s id u (.uploadTurn now u) (.answered d (.ok e)) .accepting
  | clash {now : Nat} {d : Delegation} {e : SessionEndpoints} :
      Next s id u (.uploadTurn now u) (.answered d (.ok e))
        (.ended (.error (.registry (.sessionAlreadySet id))))
  | accept {now : Nat} : Next s id u (.uploadTurn now u) .accepting .offering
  | offer {now t : Nat} : Next s id u (.uploadTurn now u) .offering (.delivering t)
  | settle {now t : Nat} {res : Rendezvous.DeliverResult} :
      Next s id u (.uploadTurn now u) (.delivering t) (Build.afterDelivery res)
  | finish {now : Nat} {r : BuildRecord} :
      Next s id u (.uploadTurn now u) .finishing (.ended (.ok r))
  | dropAsking {d : Delegation} : Next s id u (.dropUpload u) (.submitting d) (.dropped none)
  | dropDelivering {t : Nat} : Next s id u (.dropUpload u) (.delivering t) (.dropped (some t))

namespace Build

variable {s : CoordinatorSettings} {b b' : Build} {y : BuildStep}

/-- Where one upload is moved on, every other one stays where it is. -/
private theorem next_setUpload {u v : Nat} {a a' x : UploadStage} (hu : b.stage? u = some a)
    (hv : b.stage? v = some x) (hnext : UploadStage.Next s b.id u y a a') :
    ∃ x', (b.setUpload u a').stage? v = some x' ∧
      (x' = x ∨ UploadStage.Next s b.id v y x x') := by
  by_cases huv : u = v
  · subst huv
    obtain rfl : a = x := Option.some.inj (hu.symm.trans hv)
    exact ⟨a', stage?_setUpload_self hu a', .inr hnext⟩
  · exact ⟨x, (stage?_setUpload_ne a' huv).trans hv, .inl rfl⟩

/-- A step leaves an upload where it is, or moves it on in one of the known ways. -/
theorem next_of_moves (hm : b.Moves s y b') {v : Nat} {x : UploadStage}
    (hv : b.stage? v = some x) :
    ∃ x', b'.stage? v = some x' ∧ (x' = x ∨ UploadStage.Next s b.id v y x x') := by
  -- moving an upload on and writing the phase do not get in each other's way
  have hshifted : ∀ {u : Nat} {p : Phase} {a a' : UploadStage}, b.stage? u = some a →
      UploadStage.Next s b.id u y a a' →
      ∃ x', ((b.setPhase p).setUpload u a').stage? v = some x' ∧
        (x' = x ∨ UploadStage.Next s b.id v y x x') := by
    intro u p a a' hu hnext
    have hid : (b.setPhase p).id = b.id := id_setPhase b p
    have hnext' := next_setUpload (b := b.setPhase p) (v := v) (x := x)
      ((stage?_setPhase b p u).trans hu) ((stage?_setPhase b p v).trans hv) (hid.symm ▸ hnext)
    rw [hid] at hnext'
    exact hnext'
  cases hm with
  | start p =>
    refine ⟨x, ?_, .inl rfl⟩
    have hne : v ≠ b.uploads.length := by
      rintro rfl
      simp [stage?] at hv
    rw [stage?_startUpload, if_neg hne, hv]
  | claim hx hs _ => exact next_setUpload (stage?_of_upload hx hs) hv .claim
  | refuse hx hs _ => exact next_setUpload (stage?_of_upload hx hs) hv .refuse
  | unprepared hx hs herror => exact next_setUpload (stage?_of_upload hx hs) hv (.unprepared herror)
  | ask hx hs _ => exact hshifted (stage?_of_upload hx hs) .ask
  | answer verdict hx hs => exact next_setUpload (stage?_of_upload hx hs) hv .answer
  | turnDown hx hs => exact hshifted (stage?_of_upload hx hs) .turnDown
  | skipSession hx hs _ => exact next_setUpload (stage?_of_upload hx hs) hv .keep
  | keepSession hx hs _ _ => exact next_setUpload (stage?_of_upload hx hs) hv .keep
  | clash hx hs _ _ => exact next_setUpload (stage?_of_upload hx hs) hv .clash
  | accept hx hs => exact hshifted (stage?_of_upload hx hs) .accept
  | offer hx hs => exact next_setUpload (stage?_of_upload hx hs) hv .offer
  | settle hx hs _ => exact next_setUpload (stage?_of_upload hx hs) hv .settle
  | finish hx hs => exact hshifted (stage?_of_upload hx hs) .finish
  | dropAsking hx hs => exact next_setUpload (stage?_of_upload hx hs) hv .dropAsking
  | dropDelivering hx hs _ => exact next_setUpload (stage?_of_upload hx hs) hv .dropDelivering
  | bits hbits => exact ⟨x, (stage?_of_uploads_eq hbits.frame.2.1 v).trans hv, .inl rfl⟩
  | complete | log => exact ⟨x, hv, .inl rfl⟩

/-- An upload that a step starts is about to claim the build. -/
theorem fresh_of_moves (hm : b.Moves s y b') {v : Nat} {x : UploadStage}
    (hnone : b.stage? v = none) (hv : b'.stage? v = some x) : x = .claiming := by
  -- moving an upload on starts none
  have hset : ∀ {u : Nat} {a : UploadStage} {b₀ : Build}, b₀.stage? v = none →
      (b₀.setUpload u a).stage? v ≠ some x := by
    intro u a b₀ hnone₀ hv₀
    rw [stage?_setUpload, hnone₀] at hv₀
    cases hv₀
  cases hm with
  | start p =>
    rw [stage?_startUpload] at hv
    split at hv
    · exact (Option.some.inj hv).symm
    · rw [hnone] at hv
      cases hv
  | claim | refuse | unprepared | answer | skipSession | keepSession | clash | offer | settle
  | dropAsking | dropDelivering => exact absurd hv (hset hnone)
  | ask | turnDown | accept | finish =>
    exact absurd hv (hset ((stage?_setPhase b _ v).trans hnone))
  | bits hbits =>
    rw [stage?_of_uploads_eq hbits.frame.2.1 v, hnone] at hv
    cases hv
  | complete | log =>
    have hsame : b.stage? v = some x := hv
    rw [hnone] at hsame
    cases hsame

/-- An upload keeps its payload. -/
theorem payload_of_moves (hm : b.Moves s y b') {v : Nat} {x : Upload}
    (hv : b.uploads[v]? = some x) : ∃ x', b'.uploads[v]? = some x' ∧ x'.payload = x.payload := by
  have hset : ∀ {b₀ : Build} {u : Nat} {a : UploadStage}, b₀.uploads = b.uploads →
      ∃ x', (b₀.setUpload u a).uploads[v]? = some x' ∧ x'.payload = x.payload := by
    intro b₀ u a huploads
    simp only [setUpload, List.getElem?_modify, huploads, hv, Option.map_eq_map, Option.map_some]
    refine ⟨_, rfl, ?_⟩
    split <;> rfl
  -- every move but a start sets a stage or leaves the uploads alone
  cases hm with
  | start p =>
    have hlt : v < b.uploads.length := (List.getElem?_eq_some_iff.mp hv).1
    exact ⟨x, (List.getElem?_append_left hlt).trans hv, rfl⟩
  | claim | refuse | unprepared | answer | skipSession | keepSession | clash | offer | settle
  | dropAsking | dropDelivering => exact hset rfl
  | ask | turnDown | accept | finish => exact hset (uploads_setPhase b _)
  | bits hbits => exact ⟨x, by rw [hbits.frame.2.1, hv], rfl⟩
  | complete | log => exact ⟨x, hv, rfl⟩

end Build

/-- An upload that is over: it has ended, or it was given up. -/
def UploadStage.IsOver : UploadStage → Prop
  | .ended _ | .dropped _ => True
  | _ => False

/-- An upload that is over stays where it is. -/
theorem UploadStage.IsOver.of_reaches {s : CoordinatorSettings} {b b' : Build}
    (hreach : b.Reaches s b') {u : Nat} {x : UploadStage} (hu : b.stage? u = some x)
    (hover : x.IsOver) : b'.stage? u = some x := by
  induction hreach with
  | refl => exact hu
  | tail _ hm ih =>
    obtain ⟨y, hm⟩ := hm
    obtain ⟨x', hu', rfl | hnext⟩ := Build.next_of_moves hm ih
    · exact hu'
    · cases hnext <;> exact hover.elim

end BuildBroker
