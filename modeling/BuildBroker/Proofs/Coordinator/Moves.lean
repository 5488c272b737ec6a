import BuildBroker.Coordinator.Step
import BuildBroker.Proofs.Runs
import Mathlib.Logic.Relation

/-!
# What a Step of the Coordinator Does

Every step changes one build at most, in one of a small number of ways. What is shown of all runs of a
coordinator is shown of these changes of one build.

Main statements:
- `Registry.find?_modify`, `Registry.find?_append`: which builds are found after a change.
- `Build.LogMoves`, `Build.BitsMoves`, `Build.Moves`: what each step may do to a build, and when.
- `Coordinator.step?_cases`: a step registers a build, or changes one, or does nothing.
- `Coordinator.reaches_of_play`, `Coordinator.born_of_play`: how each build has come about in a run.
-/

namespace BuildBroker

/-! ## §1 Finding Builds -/

namespace Registry

/-- After a change of one build, the others are found as before. -/
theorem find?_modify (r : Registry) (id id' : BuildId) {f : Build → Build}
    (hid : ∀ b : Build, b.id = id → (f b).id = id) :
    (r.modify id f).find? id' = if id' = id then (r.find? id).map f else r.find? id' := by
  have hsame : ∀ b : Build, (if b.id = id then f b else b).id = b.id := by
    intro b
    split
    · rename_i hb
      rw [hid b hb, hb]
    · rfl
  -- finding looks at the names only, and a change keeps them
  have hpred : ((fun b : Build => decide (b.id = id')) ∘ fun b => if b.id = id then f b else b) =
      fun b : Build => decide (b.id = id') := by
    funext b
    simp only [Function.comp_apply, hsame]
  simp only [find?, modify, List.find?_map, hpred]
  split
  · rename_i heq
    -- the build of this name is the one that is changed
    subst heq
    cases hfind : r.builds.find? (fun b => decide (b.id = id')) with
    | none => rfl
    | some b =>
      have hb : b.id = id' := by simpa using List.find?_some hfind
      simp [hb]
  -- what is found under another name is not the build that is changed
  · rename_i hne
    cases hfind : r.builds.find? (fun b => decide (b.id = id')) with
    | none => rfl
    | some b =>
      have hb : b.id = id' := by simpa using List.find?_some hfind
      have hother : b.id ≠ id := by rw [hb]; exact hne
      simp [hother]

/-- A build with a new name is found under its name, and hides no other. -/
theorem find?_append (r : Registry) (b : Build) (id' : BuildId) (hnew : r.find? b.id = none) :
    (Registry.mk (r.builds.filter (·.id ≠ b.id) ++ [b])).find? id' =
      if id' = b.id then some b else r.find? id' := by
  have hfilter : r.builds.filter (·.id ≠ b.id) = r.builds := by
    rw [List.filter_eq_self]
    intro x hx
    have hne := List.find?_eq_none.mp hnew x hx
    simpa using hne
  simp only [find?, hfilter, List.find?_append, List.find?_singleton]
  by_cases heq : id' = b.id
  · subst heq
    have hnone : r.builds.find? (fun x => decide (x.id = b.id)) = none := hnew
    rw [hnone]
    simp
  · have hother : decide (b.id = id') = false := by simpa using Ne.symm heq
    simp [hother, heq]

end Registry

/-! ## §2 The Changes of One Build -/

namespace Build

/-- What the calls at the log of a build may do, as long as no result is reported. -/
inductive LogMoves (b : Build) : BuildStep → Log.Channel → Prop where
  | append (chunk : Bytes) : LogMoves b (.append chunk) (b.log.append chunk).1
  | observe (capacity : Nat) (reading : Bool) :
      LogMoves b (.observe capacity reading) (b.log.join capacity reading).1
  | receive (i : Nat) (limit : Option Nat) :
      LogMoves b (.receive i limit) (b.log.receive i limit).1
  | unobserve (i : Nat) : LogMoves b (.unobserve i) (b.log.leave i)

/-- What may happen at the place where the bits of a build are handed over, while no upload moves on
by it. -/
inductive BitsMoves (s : CoordinatorSettings) (b : Build) : BuildStep → Build → Prop where
  | deliveryTurn {u t now : Nat} {x : Upload} {bits : Rendezvous Payload} :
      b.uploads[u]? = some x → x.stage = .delivering t → b.bits.result? t = none →
      b.bits.deliveryTurn? now t = some bits → BitsMoves s b (.uploadTurn now u) { b with bits }
  | fetch (now : Nat) : BitsMoves s b (.fetch now) (b.startFetch (now + s.fetchTimeout))
  | fetchTurn {now f : Nat} {b' : Build} :
      b.fetchTurn? now f = some b' → BitsMoves s b (.fetchTurn now f) b'
  | dropFetch {f : Nat} {b' : Build} :
      b.bitsStep? (.cancelFetch f) = some b' → BitsMoves s b (.dropFetch f) b'
  | markDelivery {t : Nat} {woken : Bool} {b' : Build} :
      b.bitsStep? (.markDelivery t woken) = some b' → BitsMoves s b (.markDelivery t woken) b'
  | markFetch {f : Nat} {woken : Bool} {b' : Build} :
      b.bitsStep? (.markFetch f woken) = some b' → BitsMoves s b (.markFetch f woken) b'
  | poll (t : Nat) : BitsMoves s b (.pollBits t) (b.pollBits t).1
  | leave (t : Nat) : BitsMoves s b (.leaveBits t) (b.leaveBits t)

/-- What a step may do to a build. -/
inductive Moves (s : CoordinatorSettings) (b : Build) : BuildStep → Build → Prop where
  | start (p : Payload) : Moves s b (.upload p) (b.startUpload p)
  | claim {now u : Nat} {x : Upload} :
      b.uploads[u]? = some x → x.stage = .claiming → b.record.phase.isClaimable = true →
      Moves s b (.uploadTurn now u)
        ({ b with record := { b.record with phase := .bitsPending } }.setUpload u .preparing)
  | refuse {now u : Nat} {x : Upload} :
      b.uploads[u]? = some x → x.stage = .claiming → b.record.phase.isClaimable = false →
      Moves s b (.uploadTurn now u)
        (b.setUpload u (.ended (.error (.registry (.alreadyDelegated b.id)))))
  /-- The addresses that the executor would have to call back cannot be made. -/
  | unprepared {now u : Nat} {x : Upload} {e : BuildError} :
      b.uploads[u]? = some x → x.stage = .preparing → CallbackUrls.forBuild s.peer b.id = .error e →
      Moves s b (.uploadTurn now u) (b.setUpload u (.ended (.error (.internal e.message))))
  | ask {now u : Nat} {x : Upload} {urls : CallbackUrls} :
      b.uploads[u]? = some x → x.stage = .preparing → CallbackUrls.forBuild s.peer b.id = .ok urls →
      Moves s b (.uploadTurn now u) ((b.setPhase .bitsInFlight).setUpload u
        (.submitting (.ofSubmission b.id b.record.submission urls)))
  | answer {u : Nat} {x : Upload} {d : Delegation}
      (verdict : Except ExecutorError SessionEndpoints) :
      b.uploads[u]? = some x → x.stage = .submitting d →
      Moves s b (.answer u verdict) (b.setUpload u (.answered d verdict))
  | turnDown {now u : Nat} {x : Upload} {d : Delegation} {e : ExecutorError} :
      b.uploads[u]? = some x → x.stage = .answered d (.error e) →
      Moves s b (.uploadTurn now u)
        ((b.setPhase .rejected).setUpload u (.ended (.error (.executor e))))
  | skipSession {now u : Nat} {x : Upload} {d : Delegation} {e : SessionEndpoints} :
      b.uploads[u]? = some x → x.stage = .answered d (.ok e) → e.isEmpty = true →
      Moves s b (.uploadTurn now u) (b.setUpload u .accepting)
  | keepSession {now u : Nat} {x : Upload} {d : Delegation} {e : SessionEndpoints} :
      b.uploads[u]? = some x → x.stage = .answered d (.ok e) → e.isEmpty = false →
      b.record.session = none →
      Moves s b (.uploadTurn now u)
        ({ b with record := { b.record with session := some e } }.setUpload u .accepting)
  /-- Endpoints have been recorded before. -/
  | clash {now u : Nat} {x : Upload} {d : Delegation} {e : SessionEndpoints} :
      b.uploads[u]? = some x → x.stage = .answered d (.ok e) → e.isEmpty = false →
      b.record.session ≠ none →
      Moves s b (.uploadTurn now u)
        (b.setUpload u (.ended (.error (.registry (.sessionAlreadySet b.id)))))
  | accept {now u : Nat} {x : Upload} :
      b.uploads[u]? = some x → x.stage = .accepting →
      Moves s b (.uploadTurn now u) ((b.setPhase .accepted).setUpload u .offering)
  | offer {now u : Nat} {x : Upload} :
      b.uploads[u]? = some x → x.stage = .offering →
      Moves s b (.uploadTurn now u)
        ({ b with bits := b.bits.startDelivery x.payload (now + s.pickupTimeout) }.setUpload u
          (.delivering b.bits.deliveries.length))
  | settle {now u t : Nat} {x : Upload} {res : Rendezvous.DeliverResult} :
      b.uploads[u]? = some x → x.stage = .delivering t → b.bits.result? t = some res →
      Moves s b (.uploadTurn now u) (b.setUpload u (afterDelivery res))
  | finish {now u : Nat} {x : Upload} :
      b.uploads[u]? = some x → x.stage = .finishing →
      Moves s b (.uploadTurn now u)
        ((b.setPhase .running).setUpload u (.ended (.ok (b.setPhase .running).record)))
  /-- An upload is given up while the executor is asked. -/
  | dropAsking {u : Nat} {x : Upload} {d : Delegation} :
      b.uploads[u]? = some x → x.stage = .submitting d →
      Moves s b (.dropUpload u) (b.setUpload u (.dropped none))
  /-- An upload is given up while its bits are delivered. -/
  | dropDelivering {u t : Nat} {x : Upload} :
      b.uploads[u]? = some x → x.stage = .delivering t → b.bits.deliveryWaits t = true →
      Moves s b (.dropUpload u)
        ({ b with bits := b.bits.cancelDelivery t }.setUpload u (.dropped (some t)))
  | bits {y : BuildStep} {b' : Build} : b.BitsMoves s y b' → Moves s b y b'
  | complete {r : BuildResult} {log : Log.Channel} :
      r.validate = .ok () → b.log.close? = some log →
      Moves s b (.recordResult r) { b with
        log, record := { b.record with status := some r.status, phase := .completed } }
  | log {y : BuildStep} {log : Log.Channel} : b.LogMoves y log → Moves s b y { b with log }

section Inversion

variable {s : CoordinatorSettings} {b b' : Build}

theorem moves_of_uploadTurn? {now u : Nat}
    (h : b.uploadTurn? s.peer s.pickupTimeout now u = some b') :
    b.Moves s (.uploadTurn now u) b' := by
  unfold uploadTurn? at h
  cases hx : b.uploads[u]? with
  | none => simp [hx] at h
  | some x =>
    simp only [hx] at h
    -- a turn does what the stage of the upload says, so the cases are those of the stage
    cases hs : x.stage with
    | claiming =>
      simp only [hs, beginDelegation] at h
      -- the build is claimed for this upload, or somebody else has it
      cases hp : b.record.phase.isClaimable with
      | true =>
        simp only [hp, if_true, Option.some.injEq] at h
        subst h
        exact .claim hx hs hp
      | false =>
        simp only [hp, Bool.false_eq_true, if_false, Option.some.injEq] at h
        subst h
        exact .refuse hx hs hp
    | preparing =>
      simp only [hs] at h
      -- the executor is asked only if it can be told where to call
      cases hu : CallbackUrls.forBuild s.peer b.id with
      | error e =>
        simp only [hu, Option.some.injEq] at h
        subst h
        exact .unprepared hx hs hu
      | ok urls =>
        simp only [hu, Option.some.injEq] at h
        subst h
        exact .ask hx hs hu
    -- it waits for the answer, so it has no turn of its own
    | submitting d => simp [hs] at h
    | answered d verdict =>
      cases verdict with
      | error e =>
        simp only [hs, Option.some.injEq] at h
        subst h
        exact .turnDown hx hs
      | ok e =>
        simp only [hs, setSession] at h
        -- an acceptance without endpoints sets no session
        cases hempty : e.isEmpty with
        | true =>
          simp only [hempty, if_true, Option.some.injEq] at h
          subst h
          exact .skipSession hx hs hempty
        | false =>
          simp only [hempty, Bool.false_eq_true, if_false] at h
          -- a session is set once, and a second one ends the upload
          cases hsession : b.record.session with
          | none =>
            simp only [hsession, Option.isSome_none, Bool.false_eq_true, if_false,
              Option.some.injEq] at h
            subst h
            exact .keepSession hx hs hempty hsession
          | some old =>
            simp only [hsession, Option.isSome_some, if_true, Option.some.injEq] at h
            subst h
            exact .clash hx hs hempty (by simp [hsession])
    | accepting =>
      simp only [hs, Option.some.injEq] at h
      subst h
      exact .accept hx hs
    | offering =>
      simp only [hs, Option.some.injEq] at h
      subst h
      exact .offer hx hs
    | delivering t =>
      simp only [hs] at h
      -- the upload moves on with its delivery until that has a result
      cases hres : b.bits.result? t with
      | some res =>
        simp only [hres, Option.some.injEq] at h
        subst h
        exact .settle hx hs hres
      | none =>
        simp only [hres] at h
        obtain ⟨bits, hturn, rfl⟩ := Option.map_eq_some_iff.mp h
        exact .bits (.deliveryTurn hx hs hres hturn)
    | finishing =>
      simp only [hs, Option.some.injEq] at h
      subst h
      exact .finish hx hs
    | ended | dropped => simp [hs] at h

/-- A turn of an upload does nothing but what the upload has come to. -/
theorem uploadTurn?_of_moves {now u : Nat} (h : b.Moves s (.uploadTurn now u) b') :
    b.uploadTurn? s.peer s.pickupTimeout now u = some b' := by
  cases h with
  | claim hx hs hclaim => simp [uploadTurn?, hx, hs, beginDelegation, hclaim]
  | refuse hx hs hclaim => simp [uploadTurn?, hx, hs, beginDelegation, hclaim]
  | unprepared hx hs herror => simp [uploadTurn?, hx, hs, herror]
  | ask hx hs hurls => simp [uploadTurn?, hx, hs, hurls]
  | turnDown hx hs | accept hx hs | offer hx hs | finish hx hs => simp [uploadTurn?, hx, hs]
  | skipSession hx hs hempty => simp [uploadTurn?, hx, hs, hempty]
  | keepSession hx hs hfull hnone => simp [uploadTurn?, hx, hs, hfull, setSession, hnone]
  | clash hx hs hfull hsession =>
    have hsome := Option.isSome_iff_ne_none.mpr hsession
    simp [uploadTurn?, hx, hs, hfull, setSession, hsome]
  | settle hx hs hres => simp [uploadTurn?, hx, hs, hres]
  -- of the moves of bits only those of a delivery are turns of an upload
  | bits hbits =>
    cases hbits with
    | deliveryTurn hx hs hres hturn => simp [uploadTurn?, hx, hs, hres, hturn]
  | log hlog => cases hlog

theorem moves_of_answerUpload {u : Nat} (h : b.isAsking u = true)
    (verdict : Except ExecutorError SessionEndpoints) :
    ∃ x d, b.uploads[u]? = some x ∧ x.stage = .submitting d ∧
      b.answerUpload u verdict = b.setUpload u (.answered d verdict) := by
  unfold isAsking at h
  split at h
  · rename_i payload d hx
    exact ⟨⟨payload, .submitting d⟩, d, hx, rfl, by simp [answerUpload, hx]⟩
  · cases h

theorem moves_of_dropUpload {u : Nat} (h : b.uploadWaits u = true) :
    b.Moves s (.dropUpload u) (b.dropUpload u) := by
  unfold uploadWaits at h
  -- it can be given up while it asks, and while its bits wait to be picked up
  split at h
  · rename_i payload d hx
    have hdrop : b.dropUpload u = b.setUpload u (.dropped none) := by simp [dropUpload, hx]
    rw [hdrop]
    exact .dropAsking hx rfl
  · rename_i payload t hx
    have hdrop : b.dropUpload u =
        { b with bits := b.bits.cancelDelivery t }.setUpload u (.dropped (some t)) := by
      simp [dropUpload, hx, h]
    rw [hdrop]
    exact .dropDelivering hx rfl h
  · cases h

end Inversion

/-! ### What a change leaves alone -/

section Frame

variable (b : Build) (u : Nat) (stage : UploadStage) (p : Phase)

@[simp] theorem record_setUpload : (b.setUpload u stage).record = b.record := rfl

@[simp] theorem bits_setUpload : (b.setUpload u stage).bits = b.bits := rfl

@[simp] theorem log_setUpload : (b.setUpload u stage).log = b.log := rfl

@[simp] theorem uploads_setPhase : (b.setPhase p).uploads = b.uploads := by
  unfold setPhase
  split <;> rfl

@[simp] theorem bits_setPhase : (b.setPhase p).bits = b.bits := by
  unfold setPhase
  split <;> rfl

@[simp] theorem log_setPhase : (b.setPhase p).log = b.log := by
  unfold setPhase
  split <;> rfl

@[simp] theorem id_setPhase : (b.setPhase p).record.id = b.record.id := by
  unfold setPhase
  split <;> rfl

@[simp] theorem session_setPhase : (b.setPhase p).record.session = b.record.session := by
  unfold setPhase
  split <;> rfl

end Frame

/-- What happens at the place of the bits leaves the record, the uploads and the log alone. -/
theorem BitsMoves.frame {s : CoordinatorSettings} {b b' : Build} {y : BuildStep}
    (h : b.BitsMoves s y b') :
    b'.record = b.record ∧ b'.uploads = b.uploads ∧ b'.log = b.log := by
  have hreport : ∀ (b : Build) (t : Nat) (report : Option Rendezvous.Outcome),
      (b.reportDrain t report).record = b.record ∧ (b.reportDrain t report).uploads = b.uploads ∧
        (b.reportDrain t report).log = b.log := by
    intro b t report
    cases report <;> exact ⟨rfl, rfl, rfl⟩
  -- a reader that polls or leaves may report, and nothing else writes outside of the bits
  cases h with
  | deliveryTurn | fetch => exact ⟨rfl, rfl, rfl⟩
  | fetchTurn h =>
    obtain ⟨bits, _, rfl⟩ := Option.map_eq_some_iff.mp h
    exact ⟨rfl, rfl, rfl⟩
  | dropFetch h | markDelivery h | markFetch h =>
    obtain ⟨bits, _, rfl⟩ := Option.map_eq_some_iff.mp h
    exact ⟨rfl, rfl, rfl⟩
  | poll t =>
    unfold pollBits
    split
    · exact ⟨rfl, rfl, rfl⟩
    · exact hreport _ t _
  | leave t =>
    unfold leaveBits
    split
    · exact ⟨rfl, rfl, rfl⟩
    · exact hreport _ t _

/-- A build keeps its name. -/
theorem Moves.id_eq {s : CoordinatorSettings} {b b' : Build} {y : BuildStep}
    (h : b.Moves s y b') : b'.id = b.id := by
  cases h with
  | bits h => exact congrArg BuildRecord.id h.frame.1
  | ask | turnDown | accept | finish => exact id_setPhase b _
  | start | claim | refuse | unprepared | answer | skipSession | keepSession | clash | offer
  | settle | dropAsking | dropDelivering | complete | log => rfl

end Build

/-! ## §3 Steps -/

/-- A call that may be refused, and then changes nothing. -/
def BuildStep.MayBeRefused : BuildStep → Prop
  | .upload _ | .fetch _ | .recordResult _ | .abort => True
  | _ => False

namespace Coordinator

/-- One build has been put in its place, and all others are as before. -/
structure Puts (c c' : Coordinator) (b : Build) : Prop where
  settings : c'.settings = c.settings
  find : ∀ id, c'.registry.find? id = if id = b.id then some b else c.registry.find? id

section Steps

variable {c c' : Coordinator} {id : BuildId}

theorem id_of_find? {r : Registry} {b : Build} (h : r.find? id = some b) : b.id = id := by
  simpa using List.find?_some h

/-- A step at a build changes it in one of the known ways, and no other. -/
def MovesOne (c c' : Coordinator) (id : BuildId) (y : BuildStep) : Prop :=
  ∃ b b', c.registry.find? id = some b ∧ b.Moves c.settings y b' ∧ c.Puts c' b'

/-- Changing the build of a name puts the changed build in its place. -/
theorem puts_modify {b : Build} (hb : c.registry.find? id = some b) {f : Build → Build}
    (hid : ∀ b : Build, b.id = id → (f b).id = id) : c.Puts (c.modify id f) (f b) := by
  refine ⟨rfl, ?_⟩
  intro id'
  rw [hid b (id_of_find? hb)]
  refine (c.registry.find?_modify id id' hid).trans ?_
  rw [hb, Option.map_some]

private theorem movesOne_modify {b b' : Build} {y : BuildStep}
    (hb : c.registry.find? id = some b) (hm : b.Moves c.settings y b') :
    c.MovesOne (c.modify id fun _ => b') id y := by
  have hid : b'.id = id := hm.id_eq.trans (id_of_find? hb)
  exact ⟨b, b', hb, hm, puts_modify hb (fun _ _ => hid)⟩

/-- A change of one build that is possible puts the changed build in its place. -/
theorem of_modify? {f : Build → Option Build} (h : c.modify? id f = some c') :
    ∃ b b', c.registry.find? id = some b ∧ f b = some b' ∧ c' = c.modify id fun _ => b' := by
  unfold modify? at h
  obtain ⟨b, hb, hrest⟩ := Option.bind_eq_some_iff.mp h
  obtain ⟨b', hb', heq⟩ := Option.bind_eq_some_iff.mp hrest
  cases heq
  exact ⟨b, b', hb, hb', rfl⟩

/-- What a change of one build that is possible makes of it. -/
theorem find?_of_modify? {f : Build → Option Build} {b b' : Build}
    (h : c.modify? id f = some c') (hkept : ∀ b b', f b = some b' → b'.id = b.id)
    (hb : c.registry.find? id = some b) (hb' : c'.registry.find? id = some b') :
    f b = some b' := by
  obtain ⟨b₀, b₁, hb₀, hb₁, rfl⟩ := of_modify? h
  -- the build found is the one that was changed, and it has kept its name
  obtain rfl : b₀ = b := Option.some.inj (hb₀.symm.trans hb)
  have hid : b₁.id = id := (hkept b₀ b₁ hb₁).trans (id_of_find? hb)
  have hput := (puts_modify hb (f := fun _ => b₁) fun _ _ => hid).find id
  rw [if_pos hid.symm, hb'] at hput
  rw [hb₁, hput]

/-- A change of a build that is there is possible if it is possible for the build. -/
theorem modify?_of_find? {f : Build → Option Build} {b b' : Build}
    (hb : c.registry.find? id = some b) (hf : f b = some b') (hkept : b'.id = b.id) :
    ∃ c', c.modify? id f = some c' ∧ c'.registry.find? id = some b' := by
  have hid : b'.id = id := hkept.trans (id_of_find? hb)
  have hput := (puts_modify hb (f := fun _ => b') fun _ _ => hid).find id
  rw [if_pos hid.symm] at hput
  refine ⟨c.modify id fun _ => b', ?_, hput⟩
  simp [modify?, hb, hf]

private theorem movesOne_modify? {f : Build → Option Build} {y : BuildStep}
    (h : c.modify? id f = some c') (hf : ∀ b b', f b = some b' → b.Moves c.settings y b') :
    c.MovesOne c' id y := by
  obtain ⟨b, b', hb, hb', rfl⟩ := of_modify? h
  exact movesOne_modify hb (hf b b' hb')

private theorem movesOne_always {f : Build → Build} {y : BuildStep}
    (h : c.modify? id (fun b => some (f b)) = some c') (hf : ∀ b : Build, b.Moves c.settings y (f b)) :
    c.MovesOne c' id y := by
  refine movesOne_modify? h ?_
  rintro b _ ⟨⟩
  exact hf b

private theorem movesOne_if {p : Build → Bool} {f : Build → Build} {y : BuildStep}
    (h : c.modify? id (fun b => if p b then some (f b) else none) = some c')
    (hf : ∀ b : Build, p b = true → b.Moves c.settings y (f b)) : c.MovesOne c' id y := by
  refine movesOne_modify? h ?_
  intro b b' hb'
  split at hb'
  · rename_i hp
    cases hb'
    exact hf b hp
  · cases hb'

private theorem find?_of_get {b : Build} (h : ofRegistry (c.registry.get id) = .ok b) :
    c.registry.find? id = some b := by
  unfold Registry.get at h
  cases hb : c.registry.find? id with
  | none => simp [hb, ofRegistry] at h
  | some b' =>
    simp only [hb, ofRegistry, Except.ok.injEq] at h
    rw [h]

private theorem movesOne_startUpload (p : Payload) :
    c.after (c.startUpload id p) = c ∨
      c.MovesOne (c.after (c.startUpload id p)) id (.upload p) := by
  unfold startUpload
  cases hget : ofRegistry (c.registry.get id) with
  | error e => exact .inl rfl
  | ok b =>
    have hb := find?_of_get hget
    exact .inr ⟨b, b.startUpload p, hb, .start p, puts_modify hb (fun _ h => h)⟩

private theorem movesOne_startFetch (now : Nat) :
    c.after (c.startFetch id now) = c ∨
      c.MovesOne (c.after (c.startFetch id now)) id (.fetch now) := by
  unfold startFetch
  cases hget : ofRegistry (c.registry.get id) with
  | error e => exact .inl rfl
  | ok b =>
    have hb := find?_of_get hget
    exact .inr ⟨b, b.startFetch (now + c.settings.fetchTimeout), hb, .bits (.fetch now),
      puts_modify hb (fun _ h => h)⟩

private theorem movesOne_recordResult (r : BuildResult) :
    c.after (c.recordResult id r) = c ∨
      c.MovesOne (c.after (c.recordResult id r)) id (.recordResult r) := by
  unfold recordResult
  cases hvalid : r.validate with
  | error e => exact .inl rfl
  | ok =>
    unfold Registry.update
    cases hget : c.registry.get id with
    | error e => exact .inl rfl
    | ok b =>
      have hb : c.registry.find? id = some b := find?_of_get (by rw [hget]; rfl)
      -- closing the log decides: who closes it records the result
      cases hlog : b.log.close? with
      | none =>
        have hcomplete : b.complete r.status = .error (.alreadyCompleted b.id) := by
          simp only [Build.complete, hlog]
        exact .inl (by simp [hcomplete, ofRegistry, after, bind, Except.bind])
      | some log =>
        have hcomplete : b.complete r.status = .ok { b with
            log, record := { b.record with status := some r.status, phase := .completed } } := by
          simp only [Build.complete, hlog]
        refine .inr ?_
        simp only [hcomplete, ofRegistry, after, bind, Except.bind, pure, Except.pure]
        exact movesOne_modify hb (.complete hvalid hlog)

/-- A step at a build changes that build in one of the known ways; nothing at all changes only if the
step is a call that may be refused. -/
theorem stepAt?_cases {y : BuildStep} (h : c.stepAt? id y = some c') :
    c' = c ∧ y.MayBeRefused ∨ c.MovesOne c' id y := by
  -- calls may be refused and then change nothing; all other steps are possible or not
  cases y with
  | upload p =>
    cases h
    exact (movesOne_startUpload p).imp_left (⟨·, trivial⟩)
  | uploadTurn now u =>
    exact .inr (movesOne_modify? h fun _ _ => Build.moves_of_uploadTurn?)
  | answer u verdict =>
    refine .inr (movesOne_if h ?_)
    intro b hasking
    obtain ⟨x, d, hx, hs, heq⟩ := Build.moves_of_answerUpload hasking verdict
    rw [heq]
    exact .answer verdict hx hs
  | dropUpload u => exact .inr (movesOne_if h fun _ => Build.moves_of_dropUpload)
  | fetch now =>
    cases h
    exact (movesOne_startFetch now).imp_left (⟨·, trivial⟩)
  | fetchTurn now f => exact .inr (movesOne_modify? h fun _ _ hb' => .bits (.fetchTurn hb'))
  | dropFetch f => exact .inr (movesOne_modify? h fun _ _ hb' => .bits (.dropFetch hb'))
  | pollBits t => exact .inr (movesOne_always h fun _ => .bits (.poll t))
  | leaveBits t => exact .inr (movesOne_always h fun _ => .bits (.leave t))
  | markDelivery t woken =>
    exact .inr (movesOne_modify? h fun _ _ hb' => .bits (.markDelivery hb'))
  | markFetch f woken => exact .inr (movesOne_modify? h fun _ _ hb' => .bits (.markFetch hb'))
  | recordResult r =>
    cases h
    exact (movesOne_recordResult r).imp_left (⟨·, trivial⟩)
  | abort =>
    -- an abort reads the record and leaves everything as it is, whatever it finds there
    cases h
    refine .inl ⟨?_, trivial⟩
    cases c.endpoint id .abort <;> rfl
  | append chunk => exact .inr (movesOne_always h fun _ => .log (.append chunk))
  | observe capacity reading =>
    exact .inr (movesOne_always h fun _ => .log (.observe capacity reading))
  | receive i limit => exact .inr (movesOne_always h fun _ => .log (.receive i limit))
  | unobserve i => exact .inr (movesOne_always h fun _ => .log (.unobserve i))

/-- Every possible step registers a build under a new name, or changes one build, or does nothing. -/
theorem step?_cases {x : CoordinatorStep} (h : c.step? x = some c') :
    (c' = c ∧ ∀ id y, x = .build id y → y.MayBeRefused) ∨
    (∃ id now sub, x = .create id now sub ∧ c.registry.find? id = none ∧
      c.Puts c' (.fresh (.fresh id now sub))) ∨
    ∃ id y, x = .build id y ∧ c.MovesOne c' id y := by
  cases x with
  | create id now sub =>
    simp only [step?] at h
    split at h
    · cases h
    -- a name that is taken is not given again
    · rename_i hnew
      cases h
      have hnone : c.registry.find? id = none := by simpa using hnew
      unfold create Registry.create
      -- a submission that is refused registers nothing
      cases sub.validate with
      | error e => exact .inl ⟨rfl, by simp⟩
      | ok =>
        exact .inr (.inl ⟨id, now, sub, rfl, hnone, rfl,
          fun id' => c.registry.find?_append (.fresh (.fresh id now sub)) id' hnone⟩)
  | build id y =>
    rcases stepAt?_cases h with ⟨heq, hcall⟩ | hone
    · refine .inl ⟨heq, ?_⟩
      rintro _ _ ⟨⟩
      exact hcall
    · exact .inr (.inr ⟨id, y, rfl, hone⟩)

end Steps

/-! ## §4 Runs -/

end Coordinator

/-- One build comes about from another by changes of the known ways. -/
def Build.Reaches (s : CoordinatorSettings) : Build → Build → Prop :=
  Relation.ReflTransGen fun b b' => ∃ y, b.Moves s y b'

namespace Coordinator

theorem settings_of_step? {c c' : Coordinator} {x : CoordinatorStep} (h : c.step? x = some c') :
    c'.settings = c.settings := by
  rcases step?_cases h with ⟨rfl, _⟩ | ⟨_, _, _, _, _, hputs⟩ | ⟨_, _, _, _, _, _, _, hputs⟩
  · rfl
  · exact hputs.settings
  · exact hputs.settings

/-- A build is never lost: a step leaves it as it is, unless it is a step at this build. -/
theorem moves_of_step? {c c' : Coordinator} {x : CoordinatorStep} (h : c.step? x = some c')
    {id : BuildId} {b : Build} (hb : c.registry.find? id = some b) :
    ∃ b', c'.registry.find? id = some b' ∧
      (b' = b ∧ (∀ y, x = .build id y → y.MayBeRefused) ∨
        ∃ y, x = .build id y ∧ b.Moves c.settings y b') := by
  rcases step?_cases h with ⟨rfl, hcall⟩ | ⟨id', now, sub, rfl, hnone, hputs⟩ |
    ⟨id', y, rfl, b₀, b₁, hb₀, hm, hputs⟩
  · exact ⟨b, hb, .inl ⟨rfl, hcall id⟩⟩
  -- a new build has a new name, so it is another one
  · have hne : id ≠ id' := by
      rintro rfl
      rw [hb] at hnone
      cases hnone
    exact ⟨b, (hputs.find id).trans ((if_neg hne).trans hb), .inl ⟨rfl, by simp⟩⟩
  · by_cases hid : id = b₁.id
    · -- the step is about this build, for a build keeps its name
      obtain rfl : id' = id := by rw [hid, hm.id_eq, id_of_find? hb₀]
      obtain rfl : b₀ = b := Option.some.inj (hb₀.symm.trans hb)
      exact ⟨b₁, (hputs.find id').trans (if_pos hid), .inr ⟨y, rfl, hm⟩⟩
    · refine ⟨b, (hputs.find id).trans ((if_neg hid).trans hb), .inl ⟨rfl, ?_⟩⟩
      rintro y' heq
      obtain rfl : id' = id := (CoordinatorStep.build.inj heq).1
      exact absurd (hm.id_eq.trans (id_of_find? hb₀)).symm hid

/-- What a step does to a build, seen from both its ends. -/
theorem moves_between {c c' : Coordinator} {x : CoordinatorStep} (h : c.step? x = some c')
    {id : BuildId} {b b' : Build} (hb : c.registry.find? id = some b)
    (hb' : c'.registry.find? id = some b') :
    b' = b ∧ (∀ y, x = .build id y → y.MayBeRefused) ∨
      ∃ y, x = .build id y ∧ b.Moves c.settings y b' := by
  obtain ⟨b₁, hb₁, hcases⟩ := moves_of_step? h hb
  obtain rfl : b₁ = b' := Option.some.inj (hb₁.symm.trans hb')
  exact hcases

theorem reaches_of_step? {c c' : Coordinator} {x : CoordinatorStep} (h : c.step? x = some c')
    {id : BuildId} {b : Build} (hb : c.registry.find? id = some b) :
    ∃ b', c'.registry.find? id = some b' ∧ b.Reaches c.settings b' := by
  obtain ⟨b', hb', ⟨rfl, _⟩ | ⟨y, _, hm⟩⟩ := moves_of_step? h hb
  · exact ⟨b', hb', .refl⟩
  · exact ⟨b', hb', .single ⟨y, hm⟩⟩

/-- What becomes of a build in a run. -/
theorem reaches_of_play {c c' : Coordinator} {steps : List CoordinatorStep}
    (h : c.play steps = some c') {id : BuildId} {b : Build} (hb : c.registry.find? id = some b) :
    c'.settings = c.settings ∧
      ∃ b', c'.registry.find? id = some b' ∧ b.Reaches c.settings b' := by
  refine Runs.run_induction (motive := fun _ mid => mid.settings = c.settings ∧
    ∃ b', mid.registry.find? id = some b' ∧ b.Reaches c.settings b') ⟨rfl, b, hb, .refl⟩ ?_ h
  rintro - mid x mid' ⟨hsettings, b₁, hb₁, hreach⟩ hstep
  obtain ⟨b₂, hb₂, hmore⟩ := reaches_of_step? hstep hb₁
  rw [hsettings] at hmore
  exact ⟨(settings_of_step? hstep).trans hsettings, b₂, hb₂, hreach.trans hmore⟩

/-- What becomes of a build in a run, seen from both its ends. -/
theorem reaches_between {c c' : Coordinator} {steps : List CoordinatorStep}
    (h : c.play steps = some c') {id : BuildId} {b b' : Build}
    (hb : c.registry.find? id = some b) (hb' : c'.registry.find? id = some b') :
    b.Reaches c.settings b' := by
  obtain ⟨_, b₁, hb₁, hreach⟩ := reaches_of_play h hb
  obtain rfl : b₁ = b' := Option.some.inj (hb₁.symm.trans hb')
  exact hreach

/-- A build was there before a step, or it has just been registered. -/
theorem born_of_step? {c c' : Coordinator} {x : CoordinatorStep} (h : c.step? x = some c')
    {id : BuildId} {b' : Build} (hb' : c'.registry.find? id = some b') :
    (∃ b, c.registry.find? id = some b ∧ b.Reaches c.settings b') ∨
      ∃ now sub, b' = .fresh (.fresh id now sub) := by
  -- builds are never lost, so a build that was there is the one that is there now
  cases hb : c.registry.find? id with
  | some b =>
    obtain ⟨b₁, hb₁, hreach⟩ := reaches_of_step? h hb
    obtain rfl : b₁ = b' := Option.some.inj (hb₁.symm.trans hb')
    exact .inl ⟨b, rfl, hreach⟩
  | none =>
    refine .inr ?_
    -- of the three kinds of steps only a registration makes a build appear
    rcases step?_cases h with ⟨rfl, _⟩ | ⟨id', now, sub, _, _, hputs⟩ |
      ⟨id', _, _, b₀, b₁, hb₀, hm, hputs⟩
    · rw [hb] at hb'
      cases hb'
    · rw [hputs.find] at hb'
      split at hb'
      · rename_i hid
        cases hb'
        exact ⟨now, sub, by rw [hid]; rfl⟩
      · rw [hb] at hb'
        cases hb'
    · rw [hputs.find] at hb'
      split at hb'
      · rename_i hid
        rw [hid, hm.id_eq, id_of_find? hb₀, hb₀] at hb
        cases hb
      · rw [hb] at hb'
        cases hb'

/-- Every build of a run has come about from its registration. -/
theorem born_of_play {s : CoordinatorSettings} {c : Coordinator} {steps : List CoordinatorStep}
    (h : (Coordinator.mk s .empty).play steps = some c) {id : BuildId} {b : Build}
    (hb : c.registry.find? id = some b) :
    c.settings = s ∧ ∃ now sub, (Build.fresh (.fresh id now sub)).Reaches s b := by
  have hrun : c.settings = s ∧ ∀ id b, c.registry.find? id = some b →
      ∃ now sub, (Build.fresh (.fresh id now sub)).Reaches s b := by
    -- the invariant speaks of all builds, as each step may be about another one
    refine Runs.run_induction (motive := fun _ mid => mid.settings = s ∧
      ∀ id b, mid.registry.find? id = some b →
        ∃ now sub, (Build.fresh (.fresh id now sub)).Reaches s b)
      ⟨rfl, fun _ _ hfind => by cases hfind⟩ ?_ h
    rintro - mid x mid' ⟨hsettings, hborn⟩ hstep
    refine ⟨(settings_of_step? hstep).trans hsettings, ?_⟩
    intro id b' hb'
    rcases born_of_step? hstep hb' with ⟨b, hb, hmore⟩ | ⟨now, sub, rfl⟩
    · obtain ⟨now, sub, hreach⟩ := hborn id b hb
      rw [hsettings] at hmore
      exact ⟨now, sub, hreach.trans hmore⟩
    · exact ⟨now, sub, .refl⟩
  exact ⟨hrun.1, hrun.2 id b hb⟩

end Coordinator

end BuildBroker
