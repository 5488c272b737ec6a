import BuildBroker.Proofs.Coordinator.Answers
import BuildBroker.Proofs.Coordinator.Endings
import BuildBroker.Proofs.Http.Passing

/-!
# Sessions Are Those of the One Acceptance

An executor that takes a build may hand out addresses: one to abort it, one for sessions. They are
recorded when the upload that has heard of them goes on, which may be after the build has completed,
and whoever wants to abort the build or to open a session later is passed on to them.

Main statements:
- `Build.Accepted`: an acceptance of the build has been heard, and its upload has gone on.
- `Build.session_of_reaches`: a recorded session stays as it is.
- `Coordinator.session_eq_iff`: a session is recorded exactly by an acceptance with an address.
- `Coordinator.endpoint_eq_ok_iff`: the addresses given out are those of the acceptance.
- `Coordinator.session_of_acceptance`: all of this in every run, up to the requests of callers.
-/

namespace BuildBroker

/-- The address of a kind, if it is given. -/
def SessionEndpoints.url? (e : SessionEndpoints) : EndpointKind → Option Url
  | .abort => e.abortUrl
  | .hijack => e.hijackUrl

theorem SessionEndpoints.not_empty_of_url? {e : SessionEndpoints} {kind : EndpointKind} {url : Url}
    (h : e.url? kind = some url) : e.isEmpty = false := by
  cases kind <;> simp_all [url?, isEmpty]

/-- An upload whose endpoints have been recorded has heard of them. -/
theorem UploadStage.Past.hears_of_kept {s : CoordinatorSettings} {b : Build} {u : Nat}
    {a : UploadStage} {h : List BuildEvent} (hpast : a.Past s b u h) (ha : a.IsKept) :
    ∃ e, .hears u (.ok e) ∈ h := by
  cases hpast with
  | accepting | offering | delivering | finishing | finished | interrupted | notFetched
  | droppedDelivering => exact ⟨_, .tail _ (.head _)⟩
  | claiming | refused | preparing | unprepared | submitting | answered | turnedDown
  | droppedAsking => exact ha.elim

namespace Build

variable {s : CoordinatorSettings} {b b' : Build} {y : BuildStep} {h : List BuildEvent}
variable {u v : Nat} {e f : SessionEndpoints}

/-! ## §1 One Acceptance -/

/-- The executor has accepted the build for an upload, with these endpoints, and the upload has gone
on since it heard of that. -/
structure Accepted (b : Build) (h : List BuildEvent) (u : Nat) (e : SessionEndpoints) : Prop where
  heard : .hears u (.ok e) ∈ h
  gone : ∀ d verdict, b.stage? u ≠ some (.answered d verdict)

/-- An upload hears what it is answered, and nothing else. -/
theorem hears_mem_notes {verdict : Except ExecutorError SessionEndpoints} :
    .hears u verdict ∈ b.notes y ↔ y = .answer u verdict := by
  cases y with
  | answer w given => simp [notes, eq_comm]
  | uploadTurn now w =>
    simp only [notes]
    split <;> simp
  | pollBits t | leaveBits t =>
    simp only [notes]
    split <;> simp
  | upload | dropUpload | fetch | fetchTurn | dropFetch | markDelivery | markFetch | recordResult
  | abort | append | observe | receive | unobserve => simp [notes]

/-- Whoever hears a yes finds no session, and is going to record the endpoints. -/
theorem heeds_of_answer (hdelegated : b.Delegated) (hm : b.Moves s (.answer u (.ok e)) b') :
    ∃ d, b'.Heeds u d e := by
  cases hm with
  | answer _ hx hs =>
    have hu := stage?_of_upload hx hs
    refine ⟨_, .heard (stage?_setUpload_self hu _) ?_⟩
    rw [record_setUpload]
    by_contra hsession
    -- a recorded session would belong to an upload that has gone further than this one
    exact hdelegated.kept_of_session hu (by simp [UploadStage.phase?]) hsession
  | bits hbits => cases hbits
  | log hlog => cases hlog

/-- What is recorded stays as it is. -/
theorem session_of_reaches (hdelegated : b.Delegated) (hsession : b.record.session = some e)
    (hreach : b.Reaches s b') : b'.record.session = some e := by
  induction hreach with
  | refl => exact hsession
  | tail hreach hm ih =>
    obtain ⟨y, hm⟩ := hm
    rcases session_of_moves hm with hsame | ⟨now, v, d, f, rfl, hv⟩
    · exact hsame.trans ih
    · -- an upload that has just heard a yes is none whose endpoints are recorded
      have hdelegated' := hdelegated.of_reaches hreach
      exact (hdelegated'.kept_of_session hv (by simp [UploadStage.phase?]) (by simp [ih])).elim

end Build

/-! ## §2 Sessions in Runs -/

namespace Coordinator

variable {settings : CoordinatorSettings} {steps : List CoordinatorStep} {c c' : Coordinator}
variable {id : BuildId} {b b' : Build} {u v : Nat} {e f : SessionEndpoints} {kind : EndpointKind}

/-- Every acceptance that a run tells of is heeded. -/
theorem heeds_of_play (h : (Coordinator.mk settings .empty).play steps = some c)
    (hb : c.registry.find? id = some b) :
    ∀ u e, .hears u (.ok e) ∈ (Coordinator.mk settings .empty).chronicle id steps →
      ∃ d, b.Heeds u d e := by
  refine chronicle_induction
    (motive := fun b log => ∀ u e, .hears u (.ok e) ∈ log → ∃ d, b.Heeds u d e) ?_ ?_ h hb
  · intro _ _ u e hmem
    cases hmem
  · intro b log y b' _ hdelegated _ hheeds hm u e hmem
    -- an acceptance told of before is heeded still, and a new one is heeded now
    rcases List.mem_append.mp hmem with hold | hnew
    · obtain ⟨d, hd⟩ := hheeds u e hold
      exact ⟨d, hd.of_moves hdelegated hm⟩
    · obtain rfl := Build.hears_mem_notes.mp hnew
      exact Build.heeds_of_answer hdelegated hm

/-- There is one acceptance of a build. -/
theorem acceptance_unique (h : (Coordinator.mk settings .empty).play steps = some c)
    (hb : c.registry.find? id = some b)
    (hu : .hears u (.ok e) ∈ (Coordinator.mk settings .empty).chronicle id steps)
    (hv : .hears v (.ok f) ∈ (Coordinator.mk settings .empty).chronicle id steps) :
    u = v ∧ e = f := by
  obtain ⟨_, hheeds⟩ := heeds_of_play h hb u e hu
  obtain ⟨_, hheeds'⟩ := heeds_of_play h hb v f hv
  obtain ⟨x, hx, hyes⟩ := hheeds.granted
  obtain ⟨x', hx', hyes'⟩ := hheeds'.granted
  -- both uploads are responsible for the phase of the build, and only one can be
  obtain rfl : u = v :=
    (delegated_of_play h hb).one hx hx' hyes.phase?_ne hyes'.phase?_ne
  -- and an upload is answered once
  have honce := ((recalled_of_play h hb).past u x hx).toldOnce
  exact ⟨rfl, Except.ok.inj (honce.hears hu hv)⟩

/-- A session is recorded exactly by an acceptance with an address, and it is that of the
acceptance. -/
theorem session_eq_iff (h : (Coordinator.mk settings .empty).play steps = some c)
    (hb : c.registry.find? id = some b) :
    b.record.session = some e ↔ e.isEmpty = false ∧
      ∃ u, b.Accepted ((Coordinator.mk settings .empty).chronicle id steps) u e := by
  constructor
  · intro hsession
    obtain ⟨u, x, hu, hx⟩ := (delegated_of_play h hb).session (by simp [hsession])
    -- the upload that has recorded the session has heard a yes, and these are its endpoints
    obtain ⟨f, hstory⟩ := ((recalled_of_play h hb).past u x hu).hears_of_kept hx
    have hheard := (mem_story rfl _).mp hstory
    obtain ⟨d, hheeds⟩ := heeds_of_play h hb u f hheard
    cases hheeds with
    | heard hstage => simp_all
    | kept hstage hkept hrecorded =>
      rw [hsession] at hrecorded
      -- an acceptance without addresses would have recorded nothing
      cases hempty : f.isEmpty with
      | true => simp [hempty] at hrecorded
      | false =>
        obtain rfl : e = f := by simpa [hempty] using hrecorded
        refine ⟨hempty, u, hheard, ?_⟩
        intro d' verdict hanswered
        rw [hstage] at hanswered
        cases hanswered
        exact hkept
  · rintro ⟨hempty, u, haccepted⟩
    -- the upload has gone on, so it does not hold the acceptance any more
    obtain ⟨d, hheeds⟩ := heeds_of_play h hb u e haccepted.heard
    rcases hheeds.session with hanswered | hrecorded
    · exact absurd hanswered (haccepted.gone _ _)
    · simpa [hempty] using hrecorded

/-- The session of a build changes only in the turn in which an upload goes on that has heard of the
acceptance; it is recorded then. -/
theorem session_of_step? (h : (Coordinator.mk settings .empty).play steps = some c)
    (hb : c.registry.find? id = some b) {x : CoordinatorStep} (hstep : c.step? x = some c')
    (hb' : c'.registry.find? id = some b') (hchange : b'.record.session ≠ b.record.session) :
    ∃ now u d e, x = .build id (.uploadTurn now u) ∧ b.stage? u = some (.answered d (.ok e)) ∧
      b.record.session = none ∧ b'.record.session = some e := by
  rcases moves_between hstep hb hb' with ⟨rfl, _⟩ | ⟨y, rfl, hm⟩
  · exact absurd rfl hchange
  · rcases Build.session_of_moves hm with hsame | ⟨now, u, d, e, rfl, hu⟩
    · exact absurd hsame hchange
    -- a session that was there would belong to an upload that has gone further
    · have hnone : b.record.session = none := by
        by_contra hsome
        exact (delegated_of_play h hb).kept_of_session hu (by simp [UploadStage.phase?]) hsome
      obtain ⟨_, hrecorded⟩ := Build.turn_of_yes hm hu hnone
      refine ⟨now, u, d, e, rfl, hu, hnone, ?_⟩
      -- with no address nothing would have changed
      cases hempty : e.isEmpty with
      | true =>
        rw [hnone, hrecorded, hempty] at hchange
        exact absurd rfl hchange
      | false => simpa [hempty] using hrecorded

/-! ## §3 The Addresses That Are Given Out -/

/-- The address of a kind that is recorded for a build. -/
theorem endpoint_of_find? (hb : c.registry.find? id = some b) (kind : EndpointKind) :
    c.endpoint id kind = match b.record.session.bind (·.url? kind) with
      | some url => .ok url
      | none => .error (.noSessionEndpoint kind) := by
  simp only [endpoint, get, Registry.get, hb]
  cases kind <;> rfl

theorem endpoint_of_not_found (hnone : c.registry.find? id = none) (kind : EndpointKind) :
    c.endpoint id kind = .error (.registry (.notFound id)) := by
  simp only [endpoint, get, Registry.get, hnone]
  rfl

/-- The address that is given out is that of the acceptance. -/
theorem endpoint_eq_ok_iff (h : (Coordinator.mk settings .empty).play steps = some c) {url : Url} :
    c.endpoint id kind = .ok url ↔ ∃ b u e, c.registry.find? id = some b ∧
      b.Accepted ((Coordinator.mk settings .empty).chronicle id steps) u e ∧
      e.url? kind = some url := by
  constructor
  · intro hendpoint
    cases hb : c.registry.find? id with
    | none =>
      rw [endpoint_of_not_found hb] at hendpoint
      cases hendpoint
    | some b =>
      rw [endpoint_of_find? hb] at hendpoint
      split at hendpoint
      · rename_i url' hurl
        cases hendpoint
        obtain ⟨e, hsession, hkind⟩ := Option.bind_eq_some_iff.mp hurl
        -- the address is read from the session, and the session is that of an acceptance
        obtain ⟨_, u, haccepted⟩ := (session_eq_iff h hb).mp hsession
        exact ⟨b, u, e, rfl, haccepted, hkind⟩
      · cases hendpoint
  · rintro ⟨b, u, e, hb, haccepted, hkind⟩
    have hsession : b.record.session = some e :=
      (session_eq_iff h hb).mpr ⟨SessionEndpoints.not_empty_of_url? hkind, u, haccepted⟩
    rw [endpoint_of_find? hb, hsession, Option.bind_some, hkind]

/-- An address that is not given out is not there, or the build is not. -/
theorem endpoint_error {err : CoordinatorError} (h : c.endpoint id kind = .error err) :
    err = if (c.registry.find? id).isSome then .noSessionEndpoint kind
      else .registry (.notFound id) := by
  cases hb : c.registry.find? id with
  | none =>
    rw [endpoint_of_not_found hb] at h
    cases h
    rfl
  | some b =>
    rw [endpoint_of_find? hb] at h
    split at h
    · cases h
    · cases h
      rfl

open Http (receive Request)

/-- **Sessions are those of the one acceptance.** In every run and for every build: the session is
recorded exactly when the executor has accepted the build with at least one address and the upload
has gone on, and it holds the addresses of that acceptance, of which there is one only; a step that
changes it is that turn of the upload, and afterwards nothing does. The address of a kind is given
out exactly if the acceptance names it; else the build is not there, or has no such endpoint. A
request of a caller is passed on exactly to that address, and is answered at once if there is
none. -/
theorem session_of_acceptance (h : (Coordinator.mk settings .empty).play steps = some c)
    {events : BuildId → List BuildEvent}
    (hevents : ∀ id, (Coordinator.mk settings .empty).chronicle id steps = events id) :
    (∀ id b, c.registry.find? id = some b →
      (∀ e, b.record.session = some e ↔ e.isEmpty = false ∧ ∃ u, b.Accepted (events id) u e) ∧
      (∀ u e v f, .hears u (.ok e) ∈ events id → .hears v (.ok f) ∈ events id → u = v ∧ e = f) ∧
      (∀ x c' b', c.step? x = some c' → c'.registry.find? id = some b' →
        b'.record.session ≠ b.record.session →
        ∃ now u d e, x = .build id (.uploadTurn now u) ∧
          b.stage? u = some (.answered d (.ok e)) ∧
          b.record.session = none ∧ b'.record.session = some e) ∧
      ∀ e more c', b.record.session = some e → c.play more = some c' →
        ∃ b', c'.registry.find? id = some b' ∧ b'.record.session = some e) ∧
    (∀ id kind,
      (∀ url, c.endpoint id kind = .ok url ↔ ∃ b u e, c.registry.find? id = some b ∧
        b.Accepted (events id) u e ∧ e.url? kind = some url) ∧
      ∀ err, c.endpoint id kind = .error err →
        err = if (c.registry.find? id).isSome then .noSessionEndpoint kind
          else .registry (.notFound id)) ∧
    (∀ x r url, (receive x c r).2.address? = some url ↔
      ∃ id kind b u e, r.endpoint? = some (id, kind) ∧ r.Ready kind ∧
        c.registry.find? id = some b ∧ b.Accepted (events id) u e ∧ e.url? kind = some url) ∧
    ∀ x r id kind err, r.endpoint? = some (id, kind) → r.Ready kind →
      c.endpoint id kind = .error err → receive x c r = (c, .done (.ofError err)) := by
  obtain rfl : events = fun id => (Coordinator.mk settings .empty).chronicle id steps :=
    funext fun id => (hevents id).symm
  refine ⟨?_, ?_, ?_, ?_⟩
  -- each build: what its session says, how it is recorded, and that it stays
  · intro id b hb
    refine ⟨fun e => session_eq_iff h hb, fun u e v f => acceptance_unique h hb,
      fun x c' b' hstep hb' => session_of_step? h hb hstep hb', ?_⟩
    intro e more c' hsession hmore
    obtain ⟨_, b', hb', hreach⟩ := reaches_of_play hmore hb
    exact ⟨b', hb', Build.session_of_reaches (delegated_of_play h hb) hsession hreach⟩
  -- each kind of address that is asked for inside
  · intro id kind
    exact ⟨fun url => endpoint_eq_ok_iff h, fun err => endpoint_error⟩
  -- each request that is passed on to an address
  · intro x r url
    constructor
    · intro haddress
      obtain ⟨id, kind, hasks, hready, hendpoint⟩ := (Http.address?_receive x c r url).mp haddress
      obtain ⟨b, u, e, hb, haccepted, hkind⟩ := (endpoint_eq_ok_iff h).mp hendpoint
      exact ⟨id, kind, b, u, e, hasks, hready, hb, haccepted, hkind⟩
    · rintro ⟨id, kind, b, u, e, hasks, hready, hb, haccepted, hkind⟩
      refine (Http.address?_receive x c r url).mpr ⟨id, kind, hasks, hready, ?_⟩
      exact (endpoint_eq_ok_iff h).mpr ⟨b, u, e, hb, haccepted, hkind⟩
  · intro x r id kind err hasks hready hrefused
    exact Http.receive_of_refused hasks hready hrefused

/-- The acceptance of a build that can be aborted. -/
def abortable : SessionEndpoints :=
  ⟨some nearbyBuilds, none⟩

/-- The executor accepts a build and reports its result; the upload goes on only after that. -/
def acceptedLate : List CoordinatorStep :=
  eagerUploads ++ [.build ⟨7⟩ (.answer 0 (.ok abortable)),
    .build ⟨7⟩ (.recordResult ⟨"success"⟩), .build ⟨7⟩ (.uploadTurn 0 0)]

/-- The session of the completed build is that of the acceptance, which has no address for
sessions. -/
theorem session_of_acceptance_acceptedLate :
    ∃ c b, smallShop.play acceptedLate = some c ∧ c.registry.find? ⟨7⟩ = some b ∧
      b.record.phase = .completed ∧ b.record.session = some abortable ∧
      (∃ u, b.Accepted (smallShop.chronicle ⟨7⟩ acceptedLate) u abortable) ∧
      c.endpoint ⟨7⟩ .abort = .ok nearbyBuilds ∧
      c.endpoint ⟨7⟩ .hijack = .error (.noSessionEndpoint .hijack) := by
  have hlast : ((smallShop.play acceptedLate).bind (·.registry.find? ⟨7⟩)).map
      (fun b => (b.record.phase, b.record.session)) = some (.completed, some abortable) := by
    decide +kernel
  obtain ⟨b, hb', heq⟩ := Option.map_eq_some_iff.mp hlast
  obtain ⟨c, hc, hb⟩ := Option.bind_eq_some_iff.mp hb'
  obtain ⟨hphase, hsession⟩ := Prod.mk.inj heq
  obtain ⟨hbuilds, hendpoints, _⟩ := session_of_acceptance hc fun _ => rfl
  obtain ⟨_, u, haccepted⟩ := ((hbuilds ⟨7⟩ b hb).1 abortable).mp hsession
  have habort : c.endpoint ⟨7⟩ .abort = .ok nearbyBuilds :=
    ((hendpoints ⟨7⟩ .abort).1 nearbyBuilds).mpr ⟨b, u, abortable, hb, haccepted, rfl⟩
  refine ⟨c, b, hc, hb, hphase, hsession, ⟨u, haccepted⟩, habort, ?_⟩
  rw [endpoint_of_find? hb, hsession]
  rfl

end Coordinator

end BuildBroker
