import BuildBroker.Proofs.Http.FirstResult
import BuildBroker.Proofs.Text.Written

/-!
# Requests That Change Nothing

A request that makes a build or puts a result changes something exactly if it is not answered with an
error. Every other request but those for bits and logs only reads. A result for a build that is not
there is refused for that, before anything is made of its body.

Main statements:
- `Failure.le_status`: every refusal has the status of an error.
- `Http.receive_of_onlyReads`: what only reads leaves the coordinator as it is.
- `Http.receive_of_mayChange`: an error has changed nothing, and everything else has.
- `Http.receive_unnamed`: a result for a build that is not there.
- `Coordinator.failures_change_nothing`: the three together, and runs without requests that only
  read.
-/

namespace BuildBroker

/-! ## §1 Errors -/

/-- Every refusal has the status of an error. -/
theorem Failure.le_status (e : CoordinatorError) : 400 ≤ (Failure.ofCoordinator e).status := by
  cases e with
  | registry e => cases e <;> simp [ofCoordinator, ofRegistry, notFound, badRequest, conflict]
  | executor e => cases e <;> simp [ofCoordinator, unavailable, badGateway]
  | invalid | bitsNotFetched | bitsTimedOut | bitsInterrupted | noSessionEndpoint | internal =>
    simp [ofCoordinator, badRequest, notFound, badGateway, internal]

namespace Http

/-! ## §2 Kinds of requests -/

/-- A request that makes a build or puts a result. -/
def Request.mayChange (r : Request) : Bool :=
  match Route.ofPath? r.target.path with
  | some .builds => r.method = "POST"
  | some (.build _ .result) => r.method = "PUT"
  | some .health | some (.build _ _) | none => false

/-- A request that lists builds, shows one or its result, asks whether the broker is alive, or is
meant for the executor. -/
def Request.onlyReads (r : Request) : Bool :=
  match Route.ofPath? r.target.path with
  | some .builds => r.method ≠ "POST"
  | some (.build _ .result) => r.method ≠ "PUT"
  | some .health | some (.build _ .record) | some (.build _ .hijack) | some (.build _ .abort) => true
  | some (.build _ .bits) | some (.build _ (.log _)) | none => false

/-- What is waited for is nothing that goes on at the coordinator. -/
def Pending.isApart : Pending → Bool
  | .done _ | .stuck | .relay _ | .tunnel _ => true
  | .upload _ _ | .fetch _ _ | .socket _ _ => false

/-- An answer has the status of an error exactly if nothing has changed. -/
def ErrsUnchanged (c : Coordinator) (out : Coordinator × Pending) : Prop :=
  ∃ a, out.2 = .done a ∧ (400 ≤ a.status ↔ out.1 = c)

variable {x : Context} {c : Coordinator} {r : Request} {raw : String} {id : BuildId}

theorem errsUnchanged_answer {a : Response} (h : 400 ≤ a.status) : ErrsUnchanged c (answer c a) :=
  ⟨a, rfl, ⟨fun _ => rfl, fun _ => h⟩⟩

theorem errsUnchanged_refuse (e : CoordinatorError) : ErrsUnchanged c (refuse c e) :=
  errsUnchanged_answer (Failure.le_status e)

theorem errsUnchanged_done {c' : Coordinator} {a : Response} (hstatus : a.status < 400)
    (hchanged : c' ≠ c) : ErrsUnchanged c (answer c' a) :=
  ⟨a, rfl, ⟨fun h => absurd h (Nat.not_le.mpr hstatus), fun h => absurd h hchanged⟩⟩

/-- Only a body that declares to be JSON is waited for, and only if it does not end. -/
theorem readJson_eq_never {α : Type} {decode : Json.Doc → Json.Decoded α} :
    readJson decode r = .never ↔ r.declaresJson = true ∧ collect r.body = .never := by
  unfold readJson
  cases r.declaresJson with
  | false => simp
  | true =>
    cases collect r.body with
    | whole b => cases hdecode : Json.decodeBytes decode b <;> simp [hdecode]
    | failed | tooLarge | never => simp

/-- A request whose body is waited for in vain. -/
def Request.NeverEnds (r : Request) : Prop :=
  r.declaresJson = true ∧ collect r.body = .never

/-! ## §3 Requests that only read -/

private theorem call?_of_onlyReads (h : r.onlyReads = true) : r.call? x = none := by
  unfold Request.onlyReads at h
  unfold Request.call?
  -- by the routes: those with a call are told apart from this one by the method
  cases hroute : Route.ofPath? r.target.path with
  | none => rfl
  | some route =>
    rw [hroute] at h
    cases route with
    | health => simp [Route.call?]
    | builds =>
      have hmethod : r.method ≠ "POST" := by simpa using h
      simp [Route.call?, hmethod]
    | build segment part =>
      have hpart : part.call? x r = none := by
        cases part with
        | bits => cases h
        | log => cases h
        | result =>
          have hmethod : r.method ≠ "PUT" := by simpa using h
          simp [BuildRoute.call?, hmethod]
        | record | hijack | abort => rfl
      simp only [Route.call?, hpart, Option.map_none]
      rcases (segmentText? segment).map parseId with _ | a | id <;> simp

private theorem isApart_of_onlyReads (h : r.onlyReads = true) :
    (receive x c r).2.isApart = true := by
  unfold Request.onlyReads at h
  unfold receive
  -- by the routes, and for a build by what may become of looking it up
  cases hroute : Route.ofPath? r.target.path with
  | none => rfl
  | some route =>
    rw [hroute] at h
    dsimp only
    split
    · cases route with
      | health => rfl
      | builds =>
        have hmethod : r.method ≠ "POST" := by simpa using h
        simp [handle, hmethod, listBuilds, answer, Pending.isApart]
      | build segment part =>
        cases hraw : segmentText? segment with
        | none =>
          cases part with
          | bits | log => cases h
          | record | result | hijack | abort => simp [handle, hraw, answer, Pending.isApart]
        | some raw =>
          cases part with
          | bits | log => cases h
          -- a build is shown from its record
          | record =>
            obtain ⟨a, hout⟩ := showBuild_cases c raw
            simp only [handle, hraw, hout, answer, Pending.isApart]
          | result =>
            have hmethod : r.method ≠ "PUT" := by simpa using h
            obtain ⟨a, hout⟩ := showResult_cases c raw
            simp only [handle, hraw, if_neg hmethod, hout, answer, Pending.isApart]
          -- passing a request on starts something at the executor, not at the coordinator
          | hijack =>
            rcases hijackBuild_cases c raw with ⟨a, hout⟩ | ⟨id, url, -, -, hout⟩
            · simp only [handle, hraw, hout, answer, Pending.isApart]
            · simp only [handle, hraw, hout, Pending.isApart]
          | abort =>
            rcases abortBuild_cases c r raw with hout | ⟨a, hout⟩ | ⟨id, url, body, -, -, -, hout⟩
            · simp only [handle, hraw, hout, Pending.isApart]
            · simp only [handle, hraw, hout, answer, Pending.isApart]
            · simp only [handle, hraw, hout, Pending.isApart]
    · rfl

/-- What only reads leaves the coordinator as it is, and starts nothing at it. -/
theorem receive_of_onlyReads (hfree : c.registry.find? x.freshId = none)
    (h : r.onlyReads = true) : (receive x c r).1 = c ∧ (receive x c r).2.isApart = true := by
  have hfst := receive_fst x c r hfree
  rw [call?_of_onlyReads h] at hfst
  exact ⟨(Option.some.inj hfst).symm, isApart_of_onlyReads h⟩

/-! ## §4 Requests that change something -/

/-- A build that is made is one more. -/
private theorem create_changes {now : Time.Instant} {s : Submission} {c' : Coordinator}
    {record : BuildRecord} (hfree : c.registry.find? id = none)
    (h : c.create id now s = .ok (c', record)) : c' ≠ c := by
  have hfilter : c.registry.builds.filter (·.id ≠ id) = c.registry.builds := by
    rw [List.filter_eq_self]
    intro b hb
    simpa using List.find?_eq_none.mp hfree b hb
  -- registering replaces a build of the same name, and there is none
  have hmade : c'.registry.builds = c.registry.builds ++ [.fresh (.fresh id now s)] := by
    cases hvalid : s.validate with
    | error e =>
      simp [Coordinator.create, Registry.create, hvalid, Coordinator.ofRegistry, bind,
        Except.bind] at h
    | ok =>
      simp only [Coordinator.create, Registry.create, hvalid, Coordinator.ofRegistry, bind,
        Except.bind, pure, Except.pure, hfilter, Except.ok.injEq, Prod.mk.injEq] at h
      rw [← h.1]
  rintro rfl
  have hlength := congrArg List.length hmade
  simp at hlength

/-- A result that is recorded closes the log. -/
private theorem recordResult_changes {res res' : BuildResult} {b : Build} {c' : Coordinator}
    (hb : c.registry.find? id = some b) (h : c.recordResult id res = .ok (c', res')) : c' ≠ c := by
  have hget : c.registry.get id = .ok b := by simp only [Registry.get, hb]
  cases hvalid : res.validate with
  | error e => simp [Coordinator.recordResult, hvalid, throw, throwThe, MonadExceptOf.throw] at h
  | ok =>
    cases hcomplete : b.complete res.status with
    | error e =>
      simp [Coordinator.recordResult, Registry.update, hvalid, hget, hcomplete,
        Coordinator.ofRegistry, bind, Except.bind] at h
    | ok b' =>
      simp only [Coordinator.recordResult, Registry.update, hvalid, hget, hcomplete,
        Coordinator.ofRegistry, bind, Except.bind, pure, Except.pure, Except.ok.injEq,
        Prod.mk.injEq] at h
      -- the log was open before and is closed now
      have hclosed : b.log.closed = false ∧ b'.log.closed = true ∧ b'.id = b.id := by
        unfold Build.complete at hcomplete
        split at hcomplete
        · cases hcomplete
        · rename_i log hclose
          cases hcomplete
          obtain ⟨hopen, hshut, -⟩ := Build.closed_of_close? hclose
          exact ⟨hopen, hshut, rfl⟩
      -- so the build that is found afterwards is not the one from before
      have hname : b'.id = id := hclosed.2.2.trans (Coordinator.id_of_find? hb)
      have hput := (Coordinator.puts_modify hb (f := fun _ => b') fun _ _ => hname).find id
      rw [if_pos hname.symm] at hput
      rintro rfl
      have hsame : c'.modify id (fun _ => b') = c' := h.1
      rw [hsame, hb] at hput
      obtain rfl : b = b' := Option.some.inj hput
      rw [hclosed.1] at hclosed
      exact Bool.false_ne_true hclosed.2.1

private theorem createBuild_errs (hfree : c.registry.find? x.freshId = none) :
    (createBuild x c r = (c, .stuck) ∧ r.NeverEnds) ∨ ErrsUnchanged c (createBuild x c r) := by
  unfold createBuild
  cases hread : readJson Submission.decode r with
  | never => exact .inl ⟨rfl, readJson_eq_never.mp hread⟩
  | refused m => exact .inr (errsUnchanged_answer (Nat.le_refl 400))
  | value s =>
    refine .inr ?_
    dsimp only
    cases hcreate : c.create x.freshId x.wallClock s with
    | error e => exact errsUnchanged_refuse e
    | ok made =>
      obtain ⟨c', record⟩ := made
      exact errsUnchanged_done (show 201 < 400 by decide) (create_changes hfree hcreate)

/-- The refusal of a name that names no build. -/
def noBuild (name : String) : Response :=
  .ofFailure (.notFound ("Build not found: " ++ name))

theorem eq_noBuild_of_parseId {a : Response} (h : parseId raw = .error a) : a = noBuild raw := by
  unfold parseId at h
  split at h
  · cases h
  · cases h
    rfl

theorem get_cases (c : Coordinator) (id : BuildId) :
    (∃ b, c.registry.find? id = some b ∧ c.get id = .ok b.record) ∨
      c.registry.find? id = none ∧ c.get id = .error (.registry (.notFound id)) := by
  cases hb : c.registry.find? id with
  | some b =>
    refine .inl ⟨b, rfl, ?_⟩
    simp [Coordinator.get, Registry.get, hb, Coordinator.ofRegistry, Except.map]
  | none =>
    refine .inr ⟨rfl, ?_⟩
    simp [Coordinator.get, Registry.get, hb, Coordinator.ofRegistry, Except.map]

private theorem putResult_errs :
    (putResult c raw r = (c, .stuck) ∧ r.NeverEnds) ∨ ErrsUnchanged c (putResult c raw r) := by
  unfold putResult
  -- `putResult_cases` says too little here: it hides which answers go with a change
  cases hread : readJson BuildResult.decode r with
  | never => exact .inl ⟨rfl, readJson_eq_never.mp hread⟩
  | refused m =>
    refine .inr ?_
    cases hid : parseId raw with
    | error a =>
      obtain rfl := eq_noBuild_of_parseId hid
      exact errsUnchanged_answer (show 400 ≤ 404 by decide)
    | ok id =>
      dsimp only
      cases hget : c.get id with
      | error e => exact errsUnchanged_refuse e
      | ok record => exact errsUnchanged_answer (show 400 ≤ 400 by decide)
  | value res =>
    refine .inr ?_
    cases hid : parseId raw with
    | error a =>
      obtain rfl := eq_noBuild_of_parseId hid
      exact errsUnchanged_answer (show 400 ≤ 404 by decide)
    | ok id =>
      dsimp only
      rcases get_cases c id with ⟨b, hb, hget⟩ | ⟨-, hget⟩
      · rw [hget]
        dsimp only
        cases hresult : c.recordResult id res with
        | error e => exact errsUnchanged_refuse e
        | ok recorded =>
          obtain ⟨c', res'⟩ := recorded
          exact errsUnchanged_done (show 200 < 400 by decide) (recordResult_changes hb hresult)
      · rw [hget]
        exact errsUnchanged_refuse _

/-- A request that may change something is waited for in vain, or answered with an error exactly if
it has changed nothing. -/
theorem receive_of_mayChange (hfree : c.registry.find? x.freshId = none)
    (h : r.mayChange = true) :
    (receive x c r = (c, .stuck) ∧ r.NeverEnds) ∨ ErrsUnchanged c (receive x c r) := by
  unfold Request.mayChange at h
  split at h
  · rename_i hroute
    -- the two requests are those that make a build and put a result
    have hpost : r.method = "POST" := by simpa using h
    have hreceive : receive x c r = createBuild x c r := by
      simp [receive, hroute, Route.allows, handle, hpost]
    rw [hreceive]
    exact createBuild_errs hfree
  · rename_i segment hroute
    have hput : r.method = "PUT" := by simpa using h
    cases hraw : segmentText? segment with
    -- a segment that is no text names no build
    | none =>
      have hreceive : receive x c r = answer c badSegment := by
        simp [receive, hroute, Route.allows, handle, hput, hraw]
      rw [hreceive]
      exact .inr (errsUnchanged_answer (show 400 ≤ 400 by decide))
    | some raw =>
      have hreceive : receive x c r = putResult c raw r := by
        simp [receive, hroute, Route.allows, handle, hput, hraw]
      rw [hreceive]
      exact putResult_errs
  · cases h
  · cases h
  · cases h

/-- What a text names, as a refusal writes it: an id in its own form. -/
def shownName (raw : String) : String :=
  match BuildId.ofText raw with
  | .ok id => id.toText
  | .error _ => raw

/-- A result for a build that is not there is refused for that, whatever its body is. -/
theorem receive_unnamed {segment : List Char}
    (hroute : Route.ofPath? r.target.path = some (.build segment .result)) (hput : r.method = "PUT")
    (hraw : segmentText? segment = some raw)
    (hnone : ∀ id, BuildId.ofText raw = .ok id → c.registry.find? id = none) :
    (receive x c r = (c, .stuck) ∧ r.NeverEnds) ∨
      receive x c r = (c, .done (noBuild (shownName raw))) := by
  have hreceive : receive x c r = putResult c raw r := by
    simp [receive, hroute, Route.allows, handle, hput, hraw]
  rw [hreceive]
  unfold putResult
  -- the body is read first, but only one that does not end is not passed over
  cases hread : readJson BuildResult.decode r with
  | never => exact .inl ⟨rfl, readJson_eq_never.mp hread⟩
  | refused | value =>
    refine .inr ?_
    cases hid : BuildId.ofText raw with
    | error e => simp [parseId, hid, shownName, answer, noBuild]
    | ok id =>
      have hget : c.get id = .error (.registry (.notFound id)) := by
        rcases get_cases c id with ⟨b, hb, -⟩ | ⟨-, hget⟩
        · rw [hnone id hid] at hb
          cases hb
        · exact hget
      have hshown : refuse c (.registry (.notFound id)) = (c, .done (noBuild id.toText)) := rfl
      simp [parseId, hid, shownName, hget, hshown]

end Http

/-! ## §5 Runs -/

/-- Whether a step is a request that only reads. -/
def BrokerStep.onlyReads : BrokerStep → Bool
  | .request _ r => r.onlyReads
  | .inside _ => false

namespace Coordinator

open Http (Context Request receive)

/-- A run without the requests that only read comes to the same. -/
theorem serve_filter_onlyReads {c c' : Coordinator} {steps : List BrokerStep}
    (h : c.serve steps = some c') : c.serve (steps.filter (!·.onlyReads)) = some c' := by
  have hrun : ∃ t, (steps.filter (!·.onlyReads)).foldlM serveStep? c = some t ∧ c' = t ∧
      Runs.seen serveStep? (fun _ _ => ([] : List Unit)) c (steps.filter (!·.onlyReads)) =
        Runs.seen serveStep? (fun _ _ => []) c steps := by
    refine Runs.run_filter rfl ?_ ?_ (fun _ _ _ _ _ => rfl) (fun _ _ _ => rfl) h
    · rintro c _ x c' rfl hreads hstep
      cases x with
      -- what happens inside is no request, so it stays in the run
      | inside y => cases hreads
      | request x r =>
        have hreads : r.onlyReads = true := by simpa [BrokerStep.onlyReads] using hreads
        simp only [serveStep?] at hstep
        split at hstep
        · cases hstep
        · rename_i hfree
          cases hstep
          exact (Http.receive_of_onlyReads (by simpa using hfree) hreads).1
    · rintro c _ x c' rfl _ hstep
      exact ⟨c', hstep, rfl⟩
  obtain ⟨_, hrun, rfl, _⟩ := hrun
  exact hrun

/-- **Failed requests and requests that only read change nothing.** A request that makes a build or
puts a result is answered with an error exactly if it leaves the coordinator as it is; only one whose
body does not end is not answered, and changes nothing either. Every request that lists builds, shows
one or its result, asks whether the broker is alive, or is passed on to the executor leaves the
coordinator as it is, whatever it is answered, and starts nothing there; a run comes to the same
without it. A result for a build that is not there is refused for that, whatever its body is. -/
theorem failures_change_nothing {x : Context} {c : Coordinator} (r : Request)
    (hfree : c.registry.find? x.freshId = none) :
    (r.mayChange = true →
      (receive x c r = (c, .stuck) ∧ r.NeverEnds) ∨
        ∃ a, (receive x c r).2 = .done a ∧ (400 ≤ a.status ↔ (receive x c r).1 = c)) ∧
    (r.onlyReads = true → (receive x c r).1 = c ∧ (receive x c r).2.isApart = true) ∧
    (∀ steps c', c.serve steps = some c' →
      c.serve (steps.filter (!·.onlyReads)) = some c') ∧
    ∀ segment raw, Http.Route.ofPath? r.target.path = some (.build segment .result) →
      r.method = "PUT" → Http.segmentText? segment = some raw →
      (∀ id, BuildId.ofText raw = .ok id → c.registry.find? id = none) →
      (receive x c r = (c, .stuck) ∧ r.NeverEnds) ∨
        receive x c r = (c, .done (Http.noBuild (Http.shownName raw))) := by
  refine ⟨Http.receive_of_mayChange hfree, Http.receive_of_onlyReads hfree,
    fun steps c' h => serve_filter_onlyReads h, ?_⟩
  intro segment raw hroute hput hraw hnone
  exact Http.receive_unnamed hroute hput hraw hnone

/-- The status of an answer that has been given. -/
private def statusOf? : Http.Pending → Option Nat
  | .done a => some a.status
  | _ => none

/-- A second result is refused and changes nothing, and what is no document is refused for a build
that is not there because of the build. -/
theorem failures_change_nothing_racingResult :
    ∃ c, (Coordinator.mk ⟨"h:1", 1000, 60000⟩ .empty).serve racingResult = some c ∧
      (receive quietCaller c (resultRequest ⟨7⟩ "\x7b\"status\":\"late\"\x7d")).1 = c ∧
      receive quietCaller c (resultRequest ⟨8⟩ "late") =
        (c, .done (Http.noBuild (Uuid.toText ⟨8⟩))) := by
  have hlast : ((Coordinator.mk ⟨"h:1", 1000, 60000⟩ .empty).serve racingResult).map (fun c =>
      ((c.registry.find? ⟨99⟩).isNone, (c.registry.find? ⟨8⟩).isNone,
        statusOf? (receive quietCaller c
          (resultRequest ⟨7⟩ "\x7b\"status\":\"late\"\x7d")).2)) =
      some (true, true, some 409) := by decide +kernel
  obtain ⟨c, hc, heq⟩ := Option.map_eq_some_iff.mp hlast
  simp only [Prod.mk.injEq, Option.isNone_iff_eq_none] at heq
  obtain ⟨hfree, hnone, hstatus⟩ := heq
  refine ⟨c, hc, ?_, ?_⟩
  · obtain ⟨hchange, -, -, -⟩ := failures_change_nothing (x := quietCaller) (c := c)
      (resultRequest ⟨7⟩ "\x7b\"status\":\"late\"\x7d") hfree
    -- the second result is answered, and with an error
    rcases hchange (by decide +kernel) with ⟨hstuck, -⟩ | ⟨a, hdone, herror⟩
    · rw [hstuck]
    · rw [hdone] at hstatus
      exact herror.mp (by rw [Option.some.inj hstatus]; decide)
  · obtain ⟨-, -, -, hunnamed⟩ := failures_change_nothing (x := quietCaller) (c := c)
      (resultRequest ⟨8⟩ "late") hfree
    have hbody : Http.collect (resultRequest ⟨8⟩ "late").body = .whole (Bytes.ofText "late") := rfl
    have hshown : Http.shownName (Uuid.toText ⟨8⟩) = Uuid.toText ⟨8⟩ := by decide +kernel
    have hmissing : ∀ id, BuildId.ofText (Uuid.toText ⟨8⟩) = .ok id →
        c.registry.find? id = none := by
      intro id hid
      rw [BuildId.ofText_toText] at hid
      cases hid
      exact hnone
    rcases hunnamed (Uuid.toText ⟨8⟩).toList (Uuid.toText ⟨8⟩) (by decide +kernel) rfl
      (by decide +kernel) hmissing with ⟨-, -, hnever⟩ | hrefused
    · rw [hbody] at hnever
      cases hnever
    · rw [hrefused, hshown]

end Coordinator

end BuildBroker
