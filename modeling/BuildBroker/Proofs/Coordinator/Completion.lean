import BuildBroker.Proofs.Coordinator.Histories

/-!
# The Result of a Build

A build is completed by its first result, which also closes its log. From then on the result, the
phase and what has been logged stay as they are, whatever goes on.

Main statements:
- `Build.Moves.result_cases`: a change of a build completes it, or has nothing to do with its result.
- `Build.Settled`: the phase, the status and the log agree on whether there is a result.
- `Build.Final.of_moves`: what a completed build keeps.
- `Coordinator.recordResult_of_find?`: what a report comes to.
- `Coordinator.status_eq_reports`: the status is that of the first valid report.
-/

namespace BuildBroker

/-! ## §1 What Changes a Result -/

namespace Build

section Fields

variable (b : Build) (u : Nat) (stage : UploadStage) {p : Phase}

@[simp] theorem status_setPhase : (b.setPhase p).record.status = b.record.status := by
  unfold setPhase
  split <;> rfl

/-- The phase of a build after it was moved to one; a completed build stays completed. -/
theorem phase_setPhase :
    (b.setPhase p).record.phase = if b.record.phase = .completed then .completed else p := by
  unfold setPhase
  split
  · rename_i hdone
    exact hdone
  · rfl

theorem completed_setPhase (hp : p ≠ .completed) :
    (b.setPhase p).record.phase = .completed ↔ b.record.phase = .completed := by
  rw [phase_setPhase]
  split
  · rename_i hdone
    simp [hdone]
  · rename_i hopen
    simp [hopen, hp]

end Fields

/-- Nothing that is done to a log closes it, and a closed one keeps its history. -/
theorem LogMoves.closed {b : Build} {y : BuildStep} {log : Log.Channel} (h : b.LogMoves y log) :
    log.closed = b.log.closed ∧ (b.log.closed = true → log.history = b.log.history) := by
  cases h with
  | append chunk =>
    unfold Log.Channel.append
    split
    · exact ⟨rfl, fun _ => rfl⟩
    · rename_i hopen
      exact ⟨rfl, fun hclosed => absurd hclosed hopen⟩
  | receive i limit =>
    unfold Log.Channel.receive
    split
    · exact ⟨rfl, fun _ => rfl⟩
    · exact ⟨rfl, fun _ => rfl⟩
  | observe | unobserve => exact ⟨rfl, fun _ => rfl⟩

/-- Where a change has nothing to do with the result, it leaves all of it as it is. -/
structure SameResult (b b' : Build) : Prop where
  phase : b'.record.phase = .completed ↔ b.record.phase = .completed
  status : b'.record.status = b.record.status
  closed : b'.log.closed = b.log.closed
  history : b.log.closed = true → b'.log.history = b.log.history

/-- A change of a build completes it with a valid result, or has nothing to do with its result. -/
theorem Moves.result_cases {s : CoordinatorSettings} {b b' : Build} {y : BuildStep}
    (hm : b.Moves s y b') :
    (∃ r log, y = .recordResult r ∧ r.validate = .ok () ∧ b.log.close? = some log ∧
      b' = { b with log, record := { b.record with status := some r.status, phase := .completed } }) ∨
    b.SameResult b' := by
  -- a phase that is written by an upload never completes the build
  have hshift : ∀ {p : Phase} (u : Nat) (stage : UploadStage), p ≠ .completed →
      b.SameResult ((b.setPhase p).setUpload u stage) := fun u stage hp =>
    ⟨b.completed_setPhase hp, b.status_setPhase, by rw [log_setUpload, log_setPhase],
      fun _ => by rw [log_setUpload, log_setPhase]⟩
  cases hm with
  | complete hvalid hclose => exact .inl ⟨_, _, rfl, hvalid, hclose, rfl⟩
  | claim _ _ hclaim =>
    -- a completed build cannot be claimed, so its phase is not overwritten
    have hopen : b.record.phase ≠ .completed := by
      intro hdone
      rw [hdone] at hclaim
      cases hclaim
    exact .inr ⟨by simp [hopen], rfl, rfl, fun _ => rfl⟩
  | ask | turnDown | accept | finish => exact .inr (hshift _ _ (by simp))
  | bits hbits =>
    obtain ⟨hrecord, _, hlog⟩ := hbits.frame
    exact .inr ⟨by rw [hrecord], by rw [hrecord], by rw [hlog], fun _ => by rw [hlog]⟩
  | log hlog => exact .inr ⟨Iff.rfl, rfl, hlog.closed.1, hlog.closed.2⟩
  | start | refuse | unprepared | answer | skipSession | keepSession | clash | offer | settle
  | dropAsking | dropDelivering => exact .inr ⟨Iff.rfl, rfl, rfl, fun _ => rfl⟩

/-! ## §2 The Invariant -/

/-- The phase, the status and the log agree on whether there is a result, and a result says
something. -/
structure Settled (b : Build) : Prop where
  phase : b.record.phase = .completed ↔ b.log.closed = true
  status : b.record.status ≠ none ↔ b.log.closed = true
  worded : ∀ status, b.record.status = some status → Text.allBlank status = false

theorem settled_fresh (record : BuildRecord) (hphase : record.phase = .created)
    (hstatus : record.status = none) : (fresh record).Settled :=
  ⟨by simp [fresh, hphase, Log.Channel.empty], by simp [fresh, hstatus, Log.Channel.empty],
    by simp [fresh, hstatus]⟩

/-- A valid result is not blank. -/
theorem worded_of_validate {r : BuildResult} (h : r.validate = .ok ()) :
    Text.allBlank r.status = false := by
  unfold BuildResult.validate at h
  split at h
  · cases h
  · rename_i hworded
    simpa using hworded

theorem closed_of_close? {log log' : Log.Channel} (h : log.close? = some log') :
    log.closed = false ∧ log'.closed = true ∧ log'.history = log.history := by
  unfold Log.Channel.close? at h
  split at h
  · cases h
  · rename_i hopen
    cases h
    exact ⟨by simpa using hopen, rfl, rfl⟩

/-- Every change of a build keeps the invariant. -/
theorem Settled.of_moves {s : CoordinatorSettings} {b b' : Build} {y : BuildStep}
    (h : b.Settled) (hm : b.Moves s y b') : b'.Settled := by
  rcases hm.result_cases with ⟨r, log, _, hvalid, hclose, rfl⟩ | hsame
  · have hclosed : log.closed = true := (closed_of_close? hclose).2.1
    refine ⟨by simp [hclosed], by simp [hclosed], ?_⟩
    rintro status ⟨⟩
    exact worded_of_validate hvalid
  · refine ⟨?_, ?_, ?_⟩
    · rw [hsame.phase, hsame.closed]
      exact h.phase
    · rw [hsame.status, hsame.closed]
      exact h.status
    · rw [hsame.status]
      exact h.worded

theorem Settled.of_reaches {s : CoordinatorSettings} {b b' : Build} (h : b.Settled)
    (hreach : b.Reaches s b') : b'.Settled := by
  induction hreach with
  | refl => exact h
  | tail _ hm ih =>
    obtain ⟨y, hm⟩ := hm
    exact ih.of_moves hm

/-- The build is completed, with the result and the log of a build that is. -/
structure Final (b b' : Build) : Prop where
  phase : b'.record.phase = .completed
  status : b'.record.status = b.record.status
  closed : b'.log.closed = true
  history : b'.log.history = b.log.history

theorem Settled.final {b : Build} (h : b.Settled) (hdone : b.record.phase = .completed) :
    b.Final b :=
  ⟨hdone, rfl, h.phase.mp hdone, rfl⟩

/-- No change takes anything back from a completed build. -/
theorem Final.of_moves {s : CoordinatorSettings} {b₀ b b' : Build} {y : BuildStep}
    (h : b₀.Final b) (hm : b.Moves s y b') : b₀.Final b' := by
  rcases hm.result_cases with ⟨r, log, _, _, hclose, _⟩ | hsame
  · -- a closed log is not closed again
    have hclosed := h.closed
    rw [(closed_of_close? hclose).1] at hclosed
    cases hclosed
  · exact ⟨hsame.phase.mpr h.phase, hsame.status.trans h.status, hsame.closed.trans h.closed,
      (hsame.history h.closed).trans h.history⟩

theorem Final.of_reaches {s : CoordinatorSettings} {b₀ b b' : Build} (h : b₀.Final b)
    (hreach : b.Reaches s b') : b₀.Final b' := by
  induction hreach with
  | refl => exact h
  | tail _ hm ih =>
    obtain ⟨y, hm⟩ := hm
    exact ih.of_moves hm

end Build

/-! ## §3 Reports -/

namespace Coordinator

variable {settings : CoordinatorSettings} {steps : List CoordinatorStep} {c : Coordinator}
variable {id : BuildId} {b : Build}

/-- The valid result that a step reports. -/
def reported : BuildStep → List BuildResult
  | .recordResult r => if r.validate.isOk then [r] else []
  | _ => []

/-- The valid results that are reported of a build in a run, in their order. -/
def reports (c : Coordinator) (id : BuildId) (steps : List CoordinatorStep) : List BuildResult :=
  c.history (fun _ => reported) id steps

/-- A valid report for a build that has a result is refused. -/
theorem recordResult_of_closed (hb : c.registry.find? id = some b) {r : BuildResult}
    (hvalid : r.validate = .ok ()) (hclosed : b.log.closed = true) :
    c.recordResult id r = .error (.registry (.alreadyCompleted id)) := by
  have hget : c.registry.get id = .ok b := by simp only [Registry.get, hb]
  have hcomplete : b.complete r.status = .error (.alreadyCompleted id) := by
    have hname : b.id = id := id_of_find? hb
    simp [Build.complete, Log.Channel.close?, hclosed, hname]
  simp [recordResult, Registry.update, hvalid, hget, hcomplete, ofRegistry, bind, Except.bind]

/-- A valid report for a build that has no result gives it one. -/
theorem recordResult_of_open (hb : c.registry.find? id = some b) {r : BuildResult}
    (hvalid : r.validate = .ok ()) (hopen : b.log.closed = false) :
    ∃ c' b', c.recordResult id r = .ok (c', r) ∧ c'.registry.find? id = some b' ∧
      b'.record.status = some r.status := by
  have hget : c.registry.get id = .ok b := by simp only [Registry.get, hb]
  obtain ⟨b', hcomplete, hname, hstatus⟩ : ∃ b', b.complete r.status = .ok b' ∧ b'.id = id ∧
      b'.record.status = some r.status := by
    have hname : b.record.id = id := id_of_find? hb
    simp [Build.complete, Log.Channel.close?, hopen, Build.id, hname]
  have hput := (puts_modify hb (f := fun _ => b') fun _ _ => hname).find id
  rw [if_pos hname.symm] at hput
  refine ⟨c.modify id fun _ => b', b', ?_, hput, hstatus⟩
  simp [recordResult, Registry.update, hvalid, hget, hcomplete, ofRegistry, bind, Except.bind,
    pure, Except.pure, modify, hstatus]

theorem settled_of_play (h : (Coordinator.mk settings .empty).play steps = some c)
    (hb : c.registry.find? id = some b) : b.Settled := by
  obtain ⟨_, now, sub, hreach⟩ := born_of_play h hb
  exact (Build.settled_fresh (.fresh id now sub) rfl rfl).of_reaches hreach

/-- A step at a build keeps its status if there is one, and else gives it that of the report. -/
private theorem status_of_step? {y : BuildStep} {c' : Coordinator} {b' : Build}
    (hstep : c.step? (.build id y) = some c') (hb : c.registry.find? id = some b)
    (hb' : c'.registry.find? id = some b') (hsettled : b.Settled) :
    b'.record.status = b.record.status.or ((reported y).head?.map (·.status)) := by
  by_cases hreport : ∃ r, y = .recordResult r ∧ r.validate = .ok ()
  · obtain ⟨r, rfl, hvalid⟩ := hreport
    have hreported : reported (.recordResult r) = [r] := by
      simp [reported, hvalid, Except.isOk, Except.toBool]
    rw [hreported]
    have hafter : c.after (c.recordResult id r) = c' := Option.some.inj hstep
    cases hclosed : b.log.closed with
    | true =>
      -- there is a result already, and the report changes nothing
      obtain ⟨status, hstatus⟩ := Option.ne_none_iff_exists'.mp (hsettled.status.mpr hclosed)
      rw [recordResult_of_closed hb hvalid hclosed] at hafter
      obtain rfl : c = c' := hafter
      obtain rfl : b = b' := Option.some.inj (hb.symm.trans hb')
      simp [hstatus]
    | false =>
      have hnone : b.record.status = none := by
        by_contra hne
        rw [hsettled.status.mp hne] at hclosed
        cases hclosed
      obtain ⟨c₁, b₁, heq, hb₁, hstatus⟩ := recordResult_of_open hb hvalid hclosed
      rw [heq] at hafter
      obtain rfl : c₁ = c' := hafter
      obtain rfl : b₁ = b' := Option.some.inj (hb₁.symm.trans hb')
      simp [hnone, hstatus]
  · have hreported : reported y = [] := by
      unfold reported
      split
      · rename_i r
        refine if_neg fun hok => ?_
        cases hvalid : r.validate with
        | error e => simp [hvalid, Except.isOk, Except.toBool] at hok
        | ok => exact hreport ⟨r, rfl, hvalid⟩
      · rfl
    rw [hreported]
    rcases moves_between hstep hb hb' with ⟨rfl, _⟩ | ⟨y', heq, hm⟩
    · simp
    · obtain rfl : y = y' := (CoordinatorStep.build.inj heq).2
      rcases hm.result_cases with ⟨r, _, rfl, hvalid, _⟩ | hsame
      · exact absurd ⟨r, rfl, hvalid⟩ hreport
      · simp [hsame.status]

/-- The status of a build is that of the first valid report. -/
theorem status_eq_reports (h : (Coordinator.mk settings .empty).play steps = some c)
    (hb : c.registry.find? id = some b) :
    b.record.status =
      ((Coordinator.mk settings .empty).reports id steps).head?.map (·.status) := by
  refine history_induction
    (motive := fun b rs => b.record.status = rs.head?.map BuildResult.status) (fun _ _ => rfl) ?_ h hb
  intro xs c y c' b b' rs hplay hb hstep hb' hstatus
  rw [status_of_step? hstep hb hb' (settled_of_play hplay hb), hstatus]
  cases rs <;> simp

end Coordinator

end BuildBroker
