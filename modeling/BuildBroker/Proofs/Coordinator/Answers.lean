import BuildBroker.Proofs.Coordinator.Completion
import BuildBroker.Proofs.Coordinator.Delegation
import BuildBroker.Proofs.Executor.Submission

/-!
# What an Answer of the Executor Does

A delegation is sent for an upload, and what is heard of it decides what becomes of the upload and of
its build.

Main statements:
- `Build.Heeds`: the endpoints of a yes are recorded before the build is accepted, and are kept.
- `Build.told_of_reaches`: an upload that hears a no tells its caller, and does nothing else.
- `Coordinator.reply_decides`: what the replies of the executor mean, and what follows from them.
-/

namespace BuildBroker

/-! ## §1 After a Yes -/

/-- An upload whose endpoints have been recorded goes on without looking at them again. -/
theorem UploadStage.IsKept.of_next {s : CoordinatorSettings} {id : BuildId} {u : Nat} {y : BuildStep}
    {x x' : UploadStage} (h : x.IsKept) (hnext : UploadStage.Next s id u y x x') : x'.IsKept := by
  cases hnext with
  | accept | offer | finish | dropDelivering => trivial
  | @settle _ _ res =>
    cases res with
    | drained o => cases o <;> trivial
    | notFetched => trivial
  | claim | refuse | unprepared | ask | answer | turnDown | keep | clash | dropAsking => exact h.elim

namespace Build

variable {s : CoordinatorSettings} {b b' : Build} {y : BuildStep} {u : Nat} {d : Delegation}
variable {e : SessionEndpoints}

/-- Only an upload that has heard a yes records endpoints. -/
theorem session_of_moves (hm : b.Moves s y b') :
    b'.record.session = b.record.session ∨
      ∃ now v d e, y = .uploadTurn now v ∧ b.stage? v = some (.answered d (.ok e)) := by
  cases hm with
  | keepSession hx hs => exact .inr ⟨_, _, _, _, rfl, stage?_of_upload hx hs⟩
  | ask | turnDown | accept | finish => exact .inl (session_setPhase b _)
  | bits hbits => exact .inl (by rw [hbits.frame.1])
  | start | claim | refuse | unprepared | answer | skipSession | clash | offer | settle | dropAsking
  | dropDelivering | complete | log => exact .inl rfl

/-- An upload that has heard a yes records the endpoints, if there are any. -/
theorem turn_of_yes {now : Nat} (hm : b.Moves s (.uploadTurn now u) b')
    (hu : b.stage? u = some (.answered d (.ok e))) (hnone : b.record.session = none) :
    b'.stage? u = some .accepting ∧
      b'.record.session = if e.isEmpty then none else some e := by
  obtain ⟨x, hx, hs⟩ := Option.map_eq_some_iff.mp hu
  have hturn := uploadTurn?_of_moves hm
  cases hempty : e.isEmpty with
  | true =>
    simp only [uploadTurn?, hx, hs, hempty, if_true, Option.some.injEq] at hturn
    subst hturn
    exact ⟨stage?_setUpload_self hu _, hnone⟩
  | false =>
    simp [uploadTurn?, hx, hs, hempty, setSession, hnone] at hturn
    subst hturn
    exact ⟨stage?_setUpload_self hu _, rfl⟩

/-- An upload has heard a yes, and its endpoints have been recorded or are about to be. -/
inductive Heeds (b : Build) (u : Nat) (d : Delegation) (e : SessionEndpoints) : Prop where
  | heard : b.stage? u = some (.answered d (.ok e)) → b.record.session = none → Heeds b u d e
  | kept {x : UploadStage} : b.stage? u = some x → x.IsKept →
      b.record.session = (if e.isEmpty then none else some e) → Heeds b u d e

namespace Heeds

theorem granted (h : b.Heeds u d e) : ∃ x, b.stage? u = some x ∧ x.IsGranted := by
  cases h with
  | heard hu => exact ⟨_, hu, trivial⟩
  | kept hu hx => exact ⟨_, hu, .of_kept hx⟩

theorem session (h : b.Heeds u d e) :
    b.stage? u = some (.answered d (.ok e)) ∨
      b.record.session = if e.isEmpty then none else some e := by
  cases h with
  | heard hu => exact .inl hu
  | kept _ _ hsession => exact .inr hsession

/-- Nothing that happens to the build makes the upload forget. -/
theorem of_moves (h : b.Heeds u d e) (hdelegated : b.Delegated) (hm : b.Moves s y b') :
    b'.Heeds u d e := by
  obtain ⟨a, ha, hyes⟩ := h.granted
  -- an upload that records endpoints has heard a yes, and no two uploads have
  have hone : ∀ {v d' e'}, b.stage? v = some (.answered d' (.ok e')) → v = u :=
    fun hv => hdelegated.one hv ha (by simp [UploadStage.phase?]) hyes.phase?_ne
  have hsession : (∀ now, y ≠ .uploadTurn now u) → b'.record.session = b.record.session := by
    intro hother
    rcases session_of_moves hm with hsame | ⟨now, v, _, _, rfl, hv⟩
    · exact hsame
    · exact absurd (hone hv ▸ rfl) (hother now)
  cases h with
  | heard hu hnone =>
    -- before the upload takes its turn nothing changes, and in that turn it records the endpoints
    by_cases hturn : ∃ now, y = .uploadTurn now u
    · obtain ⟨now, rfl⟩ := hturn
      obtain ⟨hstage, hrecorded⟩ := turn_of_yes hm hu hnone
      exact .kept hstage trivial hrecorded
    · obtain ⟨x', hu', rfl | hnext⟩ := next_of_moves hm hu
      · exact .heard hu' ((hsession fun now heq => hturn ⟨now, heq⟩).trans hnone)
      · cases hnext with
        | keep | clash => exact absurd ⟨_, rfl⟩ hturn
  | @kept x hu hx hrecorded =>
    have hkept : ∃ x', b'.stage? u = some x' ∧ x'.IsKept := by
      obtain ⟨x', hu', rfl | hnext⟩ := next_of_moves hm hu
      · exact ⟨x', hu', hx⟩
      · exact ⟨x', hu', hx.of_next hnext⟩
    obtain ⟨x', hu', hx'⟩ := hkept
    refine .kept hu' hx' ?_
    -- an upload that recorded others would have heard a yes beside this one
    rcases session_of_moves hm with hsame | ⟨_, v, d', e', rfl, hv⟩
    · exact hsame.trans hrecorded
    · obtain rfl := hone hv
      obtain rfl : x = .answered d' (.ok e') := Option.some.inj (hu.symm.trans hv)
      exact hx.elim

theorem of_reaches (h : b.Heeds u d e) (hdelegated : b.Delegated) (hreach : b.Reaches s b') :
    b'.Heeds u d e := by
  induction hreach with
  | refl => exact h
  | tail hreach hm ih =>
    obtain ⟨_, hm⟩ := hm
    exact ih.of_moves (hdelegated.of_reaches hreach) hm

end Heeds

/-- After a yes the build can be claimed by no upload, and is not asked for again. -/
theorem Delegated.shut (h : b.Delegated) {x : UploadStage} (hu : b.stage? u = some x)
    (hx : x.IsGranted) : b.record.phase.isClaimable = false ∧ ∀ v, b.isAsking v = false := by
  refine ⟨?_, h.not_asking hu hx⟩
  by_contra hclaim
  exact hx.phase?_ne (h.idle_of_claimable (by simpa using hclaim) u x hu)

/-! ## §2 After a No -/

/-- An upload that has heard a no tells its caller, and does nothing else. -/
theorem told_of_reaches {err : ExecutorError} (hreach : b.Reaches s b')
    (hu : b.stage? u = some (.answered d (.error err))) :
    b'.stage? u = some (.answered d (.error err)) ∨
      b'.stage? u = some (.ended (.error (.executor err))) := by
  induction hreach with
  | refl => exact .inl hu
  | tail _ hm ih =>
    obtain ⟨_, hm⟩ := hm
    rcases ih with hheard | hended
    · obtain ⟨x', hu', rfl | hnext⟩ := next_of_moves hm hheard
      · exact .inl hu'
      · cases hnext with
        | turnDown => exact .inr hu'
    · exact .inr (UploadStage.IsOver.of_reaches (.single ⟨_, hm⟩) hended trivial)

/-- In the turn in which an upload tells its caller of a no the build is rejected, unless there is a
result. -/
theorem turn_of_no {err : ExecutorError} (hu : b.stage? u = some (.answered d (.error err)))
    (now : Nat) :
    b.uploadTurn? s.peer s.pickupTimeout now u =
      some ((b.setPhase .rejected).setUpload u (.ended (.error (.executor err)))) := by
  obtain ⟨x, hx, hs⟩ := Option.map_eq_some_iff.mp hu
  simp [uploadTurn?, hx, hs]

end Build

/-! ## §3 Replies -/

namespace Coordinator

open Executor (Outgoing Reply Trail Verdict)

variable {settings : CoordinatorSettings} {steps : List CoordinatorStep} {c : Coordinator}
variable {id : BuildId} {b : Build} {u : Nat} {d : Delegation}

/-- An upload that waits for the executor can be answered. -/
private theorem step?_answer (hb : c.registry.find? id = some b)
    (hu : b.stage? u = some (.submitting d)) (v : Except ExecutorError SessionEndpoints) :
    ∃ c₁, c.step? (.build id (.answer u v)) = some c₁ ∧
      c₁.registry.find? id = some (b.setUpload u (.answered d v)) := by
  refine modify?_of_find? hb ?_ rfl
  obtain ⟨⟨payload, stage⟩, hx, rfl⟩ := Option.map_eq_some_iff.mp hu
  rw [if_pos ((b.isAsking_iff u).mpr ⟨d, hu⟩)]
  simp [Build.answerUpload, hx]

/-- The turn in which an upload tells its caller of a no is possible. -/
private theorem step?_of_no {err : ExecutorError} (hb : c.registry.find? id = some b)
    (hu : b.stage? u = some (.answered d (.error err))) (now : Nat) :
    ∃ c' b', c.step? (.build id (.uploadTurn now u)) = some c' ∧ c'.registry.find? id = some b' ∧
      b'.stage? u = some (.ended (.error (.executor err))) ∧
      b'.record.phase = if b.record.phase = .completed then .completed else .rejected := by
  have hkept : ((b.setPhase .rejected).setUpload u (.ended (.error (.executor err)))).id = b.id :=
    Build.id_setPhase b .rejected
  let turn (b : Build) : Option Build :=
    b.uploadTurn? c.settings.peer c.settings.pickupTimeout now u
  have hturn : turn b = some _ := Build.turn_of_no (s := c.settings) hu now
  obtain ⟨c', hc', hb'⟩ := modify?_of_find? hb hturn hkept
  refine ⟨c', _, hc', hb', ?_, ?_⟩
  · exact Build.stage?_setUpload_self ((Build.stage?_setPhase b .rejected u).trans hu) _
  · rw [Build.record_setUpload, Build.phase_setPhase]

/-- **The last reply decides.** An upload has asked the executor, which replies as it likes. The
delegation is sent on along the references in the replies; a reply without one is the only one, and
what is heard is what the last reply means. After a yes, with endpoints or without, no upload can
claim the build any more and the executor is not asked again, and the endpoints are recorded as soon
as the upload has gone on. After a no the upload tells its caller what it has heard and nothing else,
and in that turn it leaves the build rejected, unless there is a result. -/
theorem reply_decides (h : (Coordinator.mk settings .empty).play steps = some c)
    (hb : c.registry.find? id = some b) (hu : b.stage? u = some (.submitting d)) {builds : Url}
    (hweb : Executor.isWebScheme builds.scheme = true) {send : Outgoing → Reply}
    {sent : List Outgoing} {heard : Option (Except ExecutorError SessionEndpoints)}
    (hsubmit : Executor.submit builds d send = (sent, heard)) :
    (∃ x, Trail send Executor.followLimit (.ofDelegation builds d) sent x) ∧
    (∀ a, send (.ofDelegation builds d) = .answer a → a.reference? = none →
      sent = [.ofDelegation builds d]) ∧
    (∀ v, heard = some v ↔ ∃ z, sent.getLast? = some z ∧ Verdict (send z) v) ∧
    (∀ e, heard = some (.ok e) → ∃ c₁, c.step? (.build id (.answer u (.ok e))) = some c₁ ∧
      ∀ more c₂ b₂, c₁.play more = some c₂ → c₂.registry.find? id = some b₂ →
        b₂.record.phase.isClaimable = false ∧ (∀ v, b₂.isAsking v = false) ∧
          (b₂.stage? u = some (.answered d (.ok e)) ∨
            b₂.record.session = if e.isEmpty then none else some e)) ∧
    ∀ err, heard = some (.error err) → ∃ c₁, c.step? (.build id (.answer u (.error err))) = some c₁ ∧
      ∀ more c₂ b₂, c₁.play more = some c₂ → c₂.registry.find? id = some b₂ →
        b₂.stage? u = some (.ended (.error (.executor err))) ∨
          b₂.stage? u = some (.answered d (.error err)) ∧
            ∀ now, ∃ c₃ b₃, c₂.step? (.build id (.uploadTurn now u)) = some c₃ ∧
              c₃.registry.find? id = some b₃ ∧
              b₃.stage? u = some (.ended (.error (.executor err))) ∧
              b₃.record.phase =
                if b₂.record.phase = .completed then .completed else .rejected := by
  have hdelegated : b.Delegated := delegated_of_play h hb
  obtain ⟨x, htrail, hheard⟩ := Executor.submit_iff hweb d send
  rw [hsubmit] at htrail hheard
  refine ⟨⟨x, htrail⟩, ?_, hheard, ?_, ?_⟩
  -- an answer that refers to nothing else is the last of its trail
  · intro a hsend hstays
    refine htrail.alone ?_
    rintro o' ⟨a', hsend', hnext⟩
    obtain rfl : a = a' := Reply.answer.inj (hsend.symm.trans hsend')
    rw [Executor.next_eq_stay.mpr hstays] at hnext
    cases hnext
  -- a yes: from the step that hears it on, the upload is the one the executor said yes to
  · intro e _
    obtain ⟨c₁, hc₁, hb₁⟩ := step?_answer hb hu (.ok e)
    refine ⟨c₁, hc₁, ?_⟩
    intro more c₂ b₂ hmore hb₂
    have hplay₁ : (Coordinator.mk settings .empty).play (steps ++ [.build id (.answer u (.ok e))]) =
        some c₁ := Runs.run_concat.mpr ⟨c, h, hc₁⟩
    have hdelegated₁ := delegated_of_play hplay₁ hb₁
    have hreach := reaches_between hmore hb₁ hb₂
    -- endpoints that are recorded already would be those of another yes
    have hnone : b.record.session = none := by
      by_contra hsome
      exact hdelegated.kept_of_session hu (by simp [UploadStage.phase?]) hsome
    have hheeds : (b.setUpload u (.answered d (.ok e))).Heeds u d e :=
      .heard (Build.stage?_setUpload_self hu _) hnone
    have hafter := hheeds.of_reaches hdelegated₁ hreach
    obtain ⟨x, hx, hyes⟩ := hafter.granted
    obtain ⟨hshut, hquiet⟩ := (hdelegated₁.of_reaches hreach).shut hx hyes
    exact ⟨hshut, hquiet, hafter.session⟩
  -- a no: the upload has it until its next turn, and ends with it
  · intro err _
    obtain ⟨c₁, hc₁, hb₁⟩ := step?_answer hb hu (.error err)
    refine ⟨c₁, hc₁, ?_⟩
    intro more c₂ b₂ hmore hb₂
    have hreach := reaches_between hmore hb₁ hb₂
    rcases Build.told_of_reaches hreach (Build.stage?_setUpload_self hu _) with hheard | hended
    · exact .inr ⟨hheard, step?_of_no hb₂ hheard⟩
    · exact .inl hended

/-- The address at which an executor takes builds. -/
def nearbyBuilds : Url :=
  ⟨"http", some ⟨"", "", .domain "e", some 1⟩, .segments ["builds"], none, none⟩

/-- A yes whose body has broken off after its first octet. -/
def brokenYes : Executor.Answer :=
  ⟨Executor.createdStatus, "Created", [], [0x20], false⟩

/-- Whether an upload has been answered and has not gone on. -/
private def isAnswered (x : UploadStage) : Bool :=
  x matches .answered _ _

/-- The executor has taken the build, but as its answer has broken off the upload fails, and the build
can be claimed for another delegation. -/
theorem reply_decides_brokenYes :
    ∃ c b d c₁ c₃ b₃, smallShop.play eagerUploads = some c ∧ c.registry.find? ⟨7⟩ = some b ∧
      b.stage? 0 = some (.submitting d) ∧
      Executor.submit nearbyBuilds d (fun _ => .answer brokenYes) =
        ([.ofDelegation nearbyBuilds d], some (.error (.unreachable none))) ∧
      c.step? (.build ⟨7⟩ (.answer 0 (.error (.unreachable none)))) = some c₁ ∧
      c₁.step? (.build ⟨7⟩ (.uploadTurn 0 0)) = some c₃ ∧ c₃.registry.find? ⟨7⟩ = some b₃ ∧
      b₃.stage? 0 = some (.ended (.error (.executor (.unreachable none)))) ∧
      b₃.record.phase.isClaimable = true := by
  -- the upload has asked the executor
  have hasks : ((smallShop.play eagerUploads).bind (·.registry.find? ⟨7⟩)).map (·.isAsking 0) =
      some true := by decide +kernel
  obtain ⟨b, hb', hasking⟩ := Option.map_eq_some_iff.mp hasks
  obtain ⟨c, hc, hb⟩ := Option.bind_eq_some_iff.mp hb'
  obtain ⟨d, hd⟩ := (b.isAsking_iff 0).mp hasking
  obtain ⟨sent, heard, hsubmit⟩ : ∃ sent heard,
      Executor.submit nearbyBuilds d (fun _ => .answer brokenYes) = (sent, heard) := ⟨_, _, rfl⟩
  obtain ⟨_, hsole, hheard, _, hno⟩ := reply_decides hc hb hd (by decide) hsubmit
  -- nothing else is asked, and the answer that broke off is an error whatever its status
  obtain rfl : sent = [.ofDelegation nearbyBuilds d] := hsole brokenYes rfl rfl
  obtain rfl : heard = some (.error (.unreachable none)) :=
    (hheard _).mpr ⟨_, rfl, .brokenOff rfl rfl⟩
  obtain ⟨c₁, hc₁, hafter⟩ := hno _ rfl
  -- the upload has heard it, so it has not ended yet, and its next turn rejects the build
  have hanswered : (((smallShop.play eagerUploads).bind
      (·.step? (.build ⟨7⟩ (.answer 0 (.error (.unreachable none)))))).bind
        (·.registry.find? ⟨7⟩)).map (fun b => (b.record.phase, (b.stage? 0).any isAnswered)) =
          some (.bitsInFlight, true) := by decide +kernel
  rw [hc, Option.bind_some, hc₁, Option.bind_some] at hanswered
  obtain ⟨b₁, hb₁, heq⟩ := Option.map_eq_some_iff.mp hanswered
  obtain ⟨hopen, hstage⟩ := Prod.mk.inj heq
  rcases hafter [] c₁ b₁ rfl hb₁ with hended | ⟨_, hturn⟩
  · rw [hended] at hstage
    cases hstage
  · obtain ⟨c₃, b₃, hc₃, hb₃, htold, hrejected⟩ := hturn 0
    rw [hopen] at hrejected
    exact ⟨c, b, d, c₁, c₃, b₃, hc, hb, hd, hsubmit, hc₁, hc₃, hb₃, htold, by rw [hrejected]; rfl⟩

end Coordinator

end BuildBroker
