import BuildBroker.Proofs.Coordinator.Readers

/-!
# What Uploads Have Been Through

The stage of an upload says what it has been through: the phase in which it found the build, what the
executor said to it, when it offered its bits, and what has become of them.

Main statements:
- `UploadStage.Past`: what the chronicle says of an upload at each stage.
- `Build.Recalled.of_moves`: every change of a build keeps to this.
- `Coordinator.past_of_play`: this holds in every run.
-/

namespace BuildBroker

/-! ## §1 One Upload -/

/-- An upload that has found the build in a phase could claim it, and could tell the executor where to
call back. -/
structure Prepared (s : CoordinatorSettings) (id : BuildId) (p : Phase) : Prop where
  claimable : p.isClaimable = true
  urls : ∃ urls, CallbackUrls.forBuild s.peer id = .ok urls

/-- A record that shows the result that the build had when it was taken, or that there was none. -/
def BuildRecord.Shows (r : BuildRecord) (b : Build) : Prop :=
  r.phase = .running ∧ r.status = none ∨
    r.phase = .completed ∧ r.status ≠ none ∧ b.record.status = r.status

/-- What the chronicle of a build says of an upload that has come to a stage. -/
inductive UploadStage.Past (s : CoordinatorSettings) (b : Build) (u : Nat) :
    UploadStage → List BuildEvent → Prop where
  | claiming : Past s b u .claiming []
  | refused {q : Phase} : q.isClaimable = false →
      Past s b u (.ended (.error (.registry (.alreadyDelegated b.id)))) [.finds u q]
  | preparing {q : Phase} : q.isClaimable = true → Past s b u .preparing [.finds u q]
  | unprepared {q : Phase} {e : BuildError} : q.isClaimable = true →
      CallbackUrls.forBuild s.peer b.id = .error e →
      Past s b u (.ended (.error (.internal e.message))) [.finds u q]
  | submitting {q : Phase} {d : Delegation} : Prepared s b.id q →
      Past s b u (.submitting d) [.finds u q]
  | answered {q : Phase} {d : Delegation} {verdict : Except ExecutorError SessionEndpoints} :
      Prepared s b.id q → Past s b u (.answered d verdict) [.finds u q, .hears u verdict]
  | turnedDown {q : Phase} {e : ExecutorError} : Prepared s b.id q →
      Past s b u (.ended (.error (.executor e))) [.finds u q, .hears u (.error e)]
  | accepting {q : Phase} {e : SessionEndpoints} : Prepared s b.id q →
      Past s b u .accepting [.finds u q, .hears u (.ok e)]
  | offering {q : Phase} {e : SessionEndpoints} : Prepared s b.id q →
      Past s b u .offering [.finds u q, .hears u (.ok e)]
  | delivering {q : Phase} {e : SessionEndpoints} {t now : Nat} : Prepared s b.id q →
      Past s b u (.delivering t) [.finds u q, .hears u (.ok e), .offers u t now]
  | finishing {q : Phase} {e : SessionEndpoints} {t now : Nat} : Prepared s b.id q →
      b.bits.result? t = some (.drained .completed) →
      Past s b u .finishing [.finds u q, .hears u (.ok e), .offers u t now]
  | finished {q : Phase} {e : SessionEndpoints} {t now : Nat} {r : BuildRecord} :
      Prepared s b.id q → b.bits.result? t = some (.drained .completed) → r.Shows b →
      Past s b u (.ended (.ok r)) [.finds u q, .hears u (.ok e), .offers u t now]
  | interrupted {q : Phase} {e : SessionEndpoints} {t now : Nat} : Prepared s b.id q →
      b.bits.result? t = some (.drained .interrupted) →
      Past s b u (.ended (.error .bitsInterrupted))
        [.finds u q, .hears u (.ok e), .offers u t now]
  | notFetched {q : Phase} {e : SessionEndpoints} {t now : Nat} : Prepared s b.id q →
      b.bits.result? t = some .notFetched →
      Past s b u (.ended (.error .bitsNotFetched)) [.finds u q, .hears u (.ok e), .offers u t now]
  | droppedAsking {q : Phase} : Prepared s b.id q → Past s b u (.dropped none) [.finds u q]
  | droppedDelivering {q : Phase} {e : SessionEndpoints} {t now : Nat} : Prepared s b.id q →
      Past s b u (.dropped (some t)) [.finds u q, .hears u (.ok e), .offers u t now]

namespace Build

variable {s : CoordinatorSettings} {b b' : Build} {y : BuildStep} {h k : List BuildEvent}
variable {u : Nat} {a a' : UploadStage}

/-- A change of a build never takes back what an upload has been through. -/
theorem past_of_moves (hsettled : b.Settled) (hsound : b.bits.Sound) (hm : b.Moves s y b')
    {l : List BuildEvent} (hpast : a.Past s b u l) : a.Past s b' u l := by
  -- a stage speaks of the name of the build, of deliveries that are over, and of its result; none of
  -- these changes any more
  have hid : b'.id = b.id := hm.id_eq
  have hlater : b.bits.Later b'.bits := hm.later hsound
  have hshows : ∀ r : BuildRecord, r.Shows b → r.Shows b' := by
    rintro r (hrunning | ⟨hphase, hstatus, heq⟩)
    · exact .inl hrunning
    · have hdone : b.record.phase = .completed :=
        hsettled.phase.mpr (hsettled.status.mp (heq ▸ hstatus))
      have hfinal := (hsettled.final hdone).of_moves hm
      exact .inr ⟨hphase, hstatus, hfinal.status.trans heq⟩
  cases hpast with
  | claiming => exact .claiming
  | refused hq => exact hid ▸ .refused hq
  | preparing hq => exact .preparing hq
  | unprepared hq herror => exact .unprepared hq (hid.symm ▸ herror)
  | submitting hq => exact .submitting (hid.symm ▸ hq)
  | answered hq => exact .answered (hid.symm ▸ hq)
  | turnedDown hq => exact .turnedDown (hid.symm ▸ hq)
  | accepting hq => exact .accepting (hid.symm ▸ hq)
  | offering hq => exact .offering (hid.symm ▸ hq)
  | delivering hq => exact .delivering (hid.symm ▸ hq)
  | finishing hq hres => exact .finishing (hid.symm ▸ hq) (hlater.result? hres)
  | finished hq hres hr => exact .finished (hid.symm ▸ hq) (hlater.result? hres) (hshows _ hr)
  | interrupted hq hres => exact .interrupted (hid.symm ▸ hq) (hlater.result? hres)
  | notFetched hq hres => exact .notFetched (hid.symm ▸ hq) (hlater.result? hres)
  | droppedAsking hq => exact .droppedAsking (hid.symm ▸ hq)
  | droppedDelivering hq => exact .droppedDelivering (hid.symm ▸ hq)

/-! ## §2 All Uploads of a Build -/

/-- The chronicle says of every upload what its stage says. -/
structure Recalled (s : CoordinatorSettings) (b : Build) (h : List BuildEvent) : Prop where
  past : ∀ u a, b.stage? u = some a → a.Past s b u (story u h)
  unborn : ∀ u, b.stage? u = none → story u h = []

namespace Recalled

/-- The stage of one upload changes, and something is noted of it. -/
private theorem advance (hr : b.Recalled s h)
    (hkept : ∀ {v x l}, UploadStage.Past s b v x l → UploadStage.Past s b' v x l)
    (hself : b'.stage? u = some a') (hothers : ∀ v, u ≠ v → b'.stage? v = b.stage? v)
    (hnotes : ∀ v, u ≠ v → story v k = []) (hpast : a'.Past s b' u (story u h ++ story u k)) :
    b'.Recalled s (h ++ k) := by
  refine ⟨?_, ?_⟩
  -- the story of `u` is longer by the notes, and those of the others stay
  · intro v x hv
    rw [story_append]
    by_cases huv : u = v
    · subst huv
      obtain rfl : a' = x := Option.some.inj (hself.symm.trans hv)
      exact hpast
    · rw [hnotes v huv, List.append_nil]
      exact hkept (hr.past v x (hothers v huv ▸ hv))
  -- who has no stage has no story: it is not `u`
  · intro v hv
    have huv : u ≠ v := by
      rintro rfl
      rw [hself] at hv
      cases hv
    rw [story_append, hnotes v huv, List.append_nil]
    exact hr.unborn v (hothers v huv ▸ hv)

/-- No upload changes its stage, and nothing is noted of any. -/
private theorem aside (hr : b.Recalled s h)
    (hkept : ∀ {v x l}, UploadStage.Past s b v x l → UploadStage.Past s b' v x l)
    (hstages : ∀ v, b'.stage? v = b.stage? v) (hnotes : ∀ v, story v k = []) :
    b'.Recalled s (h ++ k) := by
  refine ⟨?_, ?_⟩
  · intro v x hv
    rw [story_append, hnotes, List.append_nil]
    exact hkept (hr.past v x (hstages v ▸ hv))
  · intro v hv
    rw [story_append, hnotes, List.append_nil]
    exact hr.unborn v (hstages v ▸ hv)

/-- An upload takes a turn that brings it to another stage. -/
private theorem turn (hr : b.Recalled s h)
    (hkept : ∀ {v x l}, UploadStage.Past s b v x l → UploadStage.Past s b' v x l)
    (hu : b.stage? u = some a) (hstages : ∀ v, b'.stage? v = (b.setUpload u a').stage? v)
    {now : Nat} (hpast : ∀ l, a.Past s b' u l →
      a'.Past s b' u (l ++ story u (b.notes (.uploadTurn now u)))) :
    b'.Recalled s (h ++ b.notes (.uploadTurn now u)) :=
  hr.advance hkept ((hstages u).trans (stage?_setUpload_self hu a'))
    (fun v huv => (hstages v).trans (stage?_setUpload_ne a' huv))
    (fun _ huv => b.story_notes_of_ne now huv) (hpast _ (hkept (hr.past u a hu)))

/-- An upload takes a turn of which nothing is noted. -/
private theorem quiet_turn (hr : b.Recalled s h)
    (hkept : ∀ {v x l}, UploadStage.Past s b v x l → UploadStage.Past s b' v x l)
    (hu : b.stage? u = some a) (hstages : ∀ v, b'.stage? v = (b.setUpload u a').stage? v)
    {now : Nat} (hquiet : story u (b.notes (.uploadTurn now u)) = [])
    (hpast : ∀ l, a.Past s b' u l → a'.Past s b' u l) :
    b'.Recalled s (h ++ b.notes (.uploadTurn now u)) := by
  refine hr.turn hkept hu hstages fun l hl => ?_
  rw [hquiet, List.append_nil]
  exact hpast l hl

private theorem start (hr : b.Recalled s h) (p : Payload)
    (hkept : ∀ {v x l}, UploadStage.Past s b v x l → UploadStage.Past s (b.startUpload p) v x l) :
    (b.startUpload p).Recalled s h := by
  refine ⟨?_, ?_⟩
  · intro v x hv
    rw [stage?_startUpload] at hv
    split at hv
    · rename_i hlast
      have hnone : b.stage? v = none := by simp [stage?, hlast]
      cases hv
      -- the new upload had no story before, and has none yet
      rw [hr.unborn v hnone]
      exact .claiming
    · exact hkept (hr.past v x hv)
  · intro v hv
    rw [stage?_startUpload] at hv
    split at hv
    · cases hv
    · exact hr.unborn v hv

/-- Every change of a build keeps the invariant. -/
theorem of_moves (hr : b.Recalled s h) (hdelegated : b.Delegated) (hsettled : b.Settled)
    (hm : b.Moves s y b') : b'.Recalled s (h ++ b.notes y) := by
  have hkept : ∀ {v x l}, UploadStage.Past s b v x l → UploadStage.Past s b' v x l :=
    fun hpast => past_of_moves hsettled hdelegated.single.sound hm hpast
  have hid : b'.id = b.id := hm.id_eq
  -- of most stages nothing is noted when the upload takes its turn
  have hquiet : ∀ {now u a}, b.stage? u = some a → a ≠ .claiming → a ≠ .offering →
      story u (b.notes (.uploadTurn now u)) = [] := by
    intro now u a hu hclaim hoffer
    simp only [notes, hu]
    split <;> simp_all [story, BuildEvent.upload?]
  have hshifted : ∀ {p u a v}, ((b.setPhase p).setUpload u a).stage? v =
      (b.setUpload u a).stage? v := by
    intro p u a v
    rw [stage?_setUpload, stage?_setUpload, stage?_setPhase]
  cases hm with
  | start p =>
    have hnotes : b.notes (.upload p) = [] := rfl
    rw [hnotes, List.append_nil]
    exact hr.start p hkept
  | @claim now u x hx hs hclaim =>
    have hu := stage?_of_upload hx hs
    refine hr.turn hkept hu (fun _ => rfl) fun l hl => ?_
    cases hl
    simpa [notes, hu, story, BuildEvent.upload?] using UploadStage.Past.preparing hclaim
  | @refuse now u x hx hs hclaim =>
    have hu := stage?_of_upload hx hs
    refine hr.turn hkept hu (fun _ => rfl) fun l hl => ?_
    cases hl
    have hfinds : story u (b.notes (.uploadTurn now u)) = [.finds u b.record.phase] := by
      simp [notes, hu, story, BuildEvent.upload?]
    rw [hfinds]
    exact .refused hclaim
  | unprepared hx hs herror =>
    have hu := stage?_of_upload hx hs
    refine hr.quiet_turn hkept hu (fun _ => rfl) (hquiet hu (by simp) (by simp)) fun l hl => ?_
    cases hl with
    | preparing hq => exact .unprepared hq herror
  | ask hx hs hurls =>
    have hu := stage?_of_upload hx hs
    refine hr.quiet_turn hkept hu (fun _ => hshifted) (hquiet hu (by simp) (by simp)) fun l hl => ?_
    cases hl with
    | preparing hq => exact .submitting ⟨hq, _, hid.symm ▸ hurls⟩
  | @answer u x d verdict hx hs =>
    have hu := stage?_of_upload hx hs
    have hstory : ∀ v, story v (b.notes (.answer u verdict)) =
        if u = v then [.hears u verdict] else [] := by
      intro v
      by_cases huv : u = v <;> simp [notes, story, BuildEvent.upload?, huv]
    refine hr.advance hkept (stage?_setUpload_self hu _) (fun v huv => stage?_setUpload_ne _ huv)
      (fun v huv => (hstory v).trans (if_neg huv)) ?_
    rw [hstory u, if_pos rfl]
    have hpast := hkept (hr.past u _ hu)
    generalize story u h = l at hpast ⊢
    cases hpast with
    | submitting hq => exact .answered hq
  | turnDown hx hs =>
    have hu := stage?_of_upload hx hs
    refine hr.quiet_turn hkept hu (fun _ => hshifted) (hquiet hu (by simp) (by simp)) fun l hl => ?_
    cases hl with
    | answered hq => exact .turnedDown hq
  | skipSession hx hs _ | keepSession hx hs _ _ =>
    have hu := stage?_of_upload hx hs
    refine hr.quiet_turn hkept hu (fun _ => rfl) (hquiet hu (by simp) (by simp)) fun l hl => ?_
    cases hl with
    | answered hq => exact .accepting hq
  | clash hx hs _ hsession =>
    -- the endpoints would be those of another upload that has been accepted
    exact (hdelegated.kept_of_session (stage?_of_upload hx hs) (by simp [UploadStage.phase?])
      hsession).elim
  | accept hx hs =>
    have hu := stage?_of_upload hx hs
    refine hr.quiet_turn hkept hu (fun _ => hshifted) (hquiet hu (by simp) (by simp)) fun l hl => ?_
    cases hl with
    | accepting hq => exact .offering hq
  | @offer now u x hx hs =>
    have hu := stage?_of_upload hx hs
    refine hr.turn hkept hu (fun _ => rfl) fun l hl => ?_
    cases hl with
    | offering hq =>
      simpa [notes, hu, story, BuildEvent.upload?] using UploadStage.Past.delivering hq
  | @settle now u t x res hx hs hres =>
    have hu := stage?_of_upload hx hs
    refine hr.quiet_turn hkept hu (fun _ => rfl) (hquiet hu (by simp) (by simp)) fun l hl => ?_
    cases hl with
    | delivering hq =>
      cases res with
      | notFetched => exact .notFetched hq hres
      | drained o =>
        cases o with
        | completed => exact .finishing hq hres
        | interrupted => exact .interrupted hq hres
  | @finish now u x hx hs =>
    have hu := stage?_of_upload hx hs
    refine hr.quiet_turn hkept hu (fun _ => hshifted) (hquiet hu (by simp) (by simp)) fun l hl => ?_
    have hshows : (b.setPhase .running).record.Shows ((b.setPhase .running).setUpload u
        (.ended (.ok (b.setPhase .running).record))) := by
      unfold BuildRecord.Shows
      rw [phase_setPhase, status_setPhase]
      by_cases hdone : b.record.phase = .completed
      · have hsome := hsettled.status.mpr (hsettled.phase.mp hdone)
        exact .inr ⟨if_pos hdone, hsome, by rw [record_setUpload, status_setPhase]⟩
      · refine .inl ⟨if_neg hdone, ?_⟩
        by_contra hsome
        exact hdone (hsettled.phase.mpr (hsettled.status.mp hsome))
    cases hl with
    | finishing hq hres => exact .finished hq hres hshows
  | @dropAsking u x d hx hs =>
    have hu := stage?_of_upload hx hs
    refine hr.advance hkept (stage?_setUpload_self hu _) (fun v huv => stage?_setUpload_ne _ huv)
      (fun _ _ => rfl) ?_
    have hpast := hkept (hr.past u _ hu)
    have hnone : story u (b.notes (.dropUpload u)) = [] := rfl
    rw [hnone, List.append_nil]
    generalize story u h = l at hpast ⊢
    cases hpast with
    | submitting hq => exact .droppedAsking hq
  | @dropDelivering u t x hx hs _ =>
    have hu := stage?_of_upload hx hs
    refine hr.advance hkept (stage?_setUpload_self hu _) (fun v huv => stage?_setUpload_ne _ huv)
      (fun _ _ => rfl) ?_
    have hpast := hkept (hr.past u _ hu)
    have hnone : story u (b.notes (.dropUpload u)) = [] := rfl
    rw [hnone, List.append_nil]
    generalize story u h = l at hpast ⊢
    cases hpast with
    | delivering hq => exact .droppedDelivering hq
  | bits hbits =>
    refine hr.aside hkept (fun v => stage?_of_uploads_eq hbits.frame.2.1 v) fun v => ?_
    cases hbits with
    | @deliveryTurn u t now x bits hx hs _ _ =>
      have hu := stage?_of_upload hx hs
      by_cases huv : u = v
      · subst huv
        exact hquiet hu (by simp) (by simp)
      · exact b.story_notes_of_ne now huv
    | fetch | fetchTurn | dropFetch | markDelivery | markFetch | poll | leave =>
      exact b.story_notes_of_aside v (by simp) (by simp)
  | complete =>
    exact hr.aside hkept (fun _ => rfl) fun v => b.story_notes_of_aside v (by simp) (by simp)
  | log hlog =>
    refine hr.aside hkept (fun _ => rfl) fun v => b.story_notes_of_aside v ?_ ?_
    · rintro now u rfl
      cases hlog
    · rintro u verdict rfl
      cases hlog

end Recalled

end Build

namespace Coordinator

variable {settings : CoordinatorSettings} {steps : List CoordinatorStep} {c : Coordinator}
variable {id : BuildId} {b : Build}

/-- In every run the chronicle says of every upload what its stage says. -/
theorem recalled_of_play (h : (Coordinator.mk settings .empty).play steps = some c)
    (hb : c.registry.find? id = some b) :
    b.Recalled settings ((Coordinator.mk settings .empty).chronicle id steps) := by
  refine chronicle_induction (motive := Build.Recalled settings) ?_
    (fun _ _ _ _ _ hdelegated hsettled hr hm => hr.of_moves hdelegated hsettled hm) h hb
  intro now sub
  exact ⟨fun u a hu => by simp [Build.stage?, Build.fresh] at hu, fun _ _ => rfl⟩

end Coordinator

end BuildBroker
