import BuildBroker.Http.Step
import BuildBroker.Proofs.Http.Handlers
import BuildBroker.Proofs.Runs

/-!
# What Requests Do to the Coordinator

A request does to the coordinator what it asks of it, and nothing besides; so a run of the broker is
a run of its coordinator.

Main statements:
- `Http.receive_fst`: the coordinator after a request.
- `Coordinator.play_of_serve`: a run of the broker, as its coordinator sees it.
- `Http.receive_result`: how a report is answered.
-/

namespace BuildBroker

namespace Http

variable (x : Context) (c : Coordinator) (r : Request) (raw : String)

/-! ## §1 Handlers -/

section Handlers

private theorem showBuild_fst : (showBuild c raw).1 = c := by
  obtain ⟨a, h⟩ := showBuild_cases c raw
  rw [h]
  rfl

private theorem showResult_fst : (showResult c raw).1 = c := by
  obtain ⟨a, h⟩ := showResult_cases c raw
  rw [h]
  rfl

private theorem abortBuild_fst : (abortBuild c raw r).1 = c := by
  rcases abortBuild_cases c r raw with h | ⟨a, h⟩ | ⟨id, url, body, -, -, -, h⟩
  · rw [h]
  · rw [h]
    rfl
  · rw [h]

private theorem hijackBuild_fst : (hijackBuild c raw).1 = c := by
  rcases hijackBuild_cases c raw with ⟨a, h⟩ | ⟨id, url, -, -, h⟩
  · rw [h]
    rfl
  · rw [h]

private theorem openLog_fst (side : LogSide) : (openLog c raw side).1 = c := by
  rcases openLog_cases c raw side with ⟨a, h⟩ | ⟨id, h⟩
  · rw [h]
    rfl
  · rw [h]

variable {raw} {id : BuildId}

private theorem uploadBits_fst (h : parseId raw = .ok id) :
    (uploadBits c raw r).1 = c.after (c.startUpload id ⟨uploadType? r, r.body⟩) := by
  simp only [uploadBits, h]
  cases c.startUpload id ⟨uploadType? r, r.body⟩ <;> rfl

private theorem fetchBits_fst (h : parseId raw = .ok id) :
    (fetchBits x c raw).1 = c.after (c.startFetch id x.now) := by
  simp only [fetchBits, h]
  cases c.startFetch id x.now <;> rfl

/-- A report of a build that is not there leaves the coordinator as it is, like one that is
refused. -/
private theorem recordResult_of_get {e : CoordinatorError} (h : c.get id = .error e)
    (res : BuildResult) : c.after (c.recordResult id res) = c := by
  have hnone : ∃ e, c.registry.get id = .error e := by
    unfold Coordinator.get at h
    cases hfind : c.registry.get id with
    | error e => exact ⟨e, rfl⟩
    | ok b => simp [hfind, Coordinator.ofRegistry, Except.map] at h
  obtain ⟨e, hnone⟩ := hnone
  unfold Coordinator.recordResult Registry.update
  cases res.validate with
  | error => rfl
  | ok => simp [hnone, Coordinator.ofRegistry, Coordinator.after, bind, Except.bind]

private theorem putResult_fst (h : parseId raw = .ok id) :
    (putResult c raw r).1 = match readJson BuildResult.decode r with
      | .value res => c.after (c.recordResult id res)
      | _ => c := by
  simp only [putResult, h]
  cases readJson BuildResult.decode r with
  | never => rfl
  | refused m => cases hget : c.get id <;> simp [answer, refuse]
  | value res =>
    -- the handler looks for the build before it reports, and the report would look for it again
    cases hget : c.get id with
    | error e => exact (recordResult_of_get c hget res).symm
    | ok record =>
      cases hres : c.recordResult id res <;> simp [answer, refuse, Coordinator.after, hres]

private theorem putResult_fst_of_error {a : Response} (h : parseId raw = .error a) :
    (putResult c raw r).1 = c := by
  simp only [putResult, h]
  cases readJson BuildResult.decode r <;> rfl

private theorem createBuild_fst :
    (createBuild x c r).1 = match readJson Submission.decode r with
      | .value s => c.after (c.create x.freshId x.wallClock s)
      | _ => c := by
  unfold createBuild
  cases readJson Submission.decode r with
  | never | refused => rfl
  | value s =>
    cases hres : c.create x.freshId x.wallClock s <;> simp [answer, refuse, Coordinator.after, hres]

end Handlers

/-! ## §2 Requests -/

/-- What a request to a build does whose path has a proper id. -/
private theorem handle_build_of_id {segment : List Char} {id : BuildId}
    (hsegment : segmentText? segment = some raw) (hid : parseId raw = .ok id) (route : BuildRoute) :
    ((Route.build segment route).call? x r).elim (some c) c.step? =
      some (handle x c r (.build segment route)).1 := by
  have hcall : (Route.build segment route).call? x r = (route.call? x r).map (.build id) := by
    simp [Route.call?, hsegment, hid]
  rw [hcall]
  -- route by route: the call that the request makes changes what the handler changes
  cases route with
  | record => simp [BuildRoute.call?, handle, hsegment, showBuild_fst]
  | bits =>
    simp only [BuildRoute.call?, handle, hsegment, Option.map_some, Option.elim_some]
    split
    · simp only [Coordinator.step?, Coordinator.stepAt?, uploadBits_fst c r hid]
    · simp only [Coordinator.step?, Coordinator.stepAt?, fetchBits_fst x c hid]
  | result =>
    simp only [BuildRoute.call?, handle, hsegment]
    split
    · rw [putResult_fst c r hid]
      -- a body that is no result makes no call, and leaves everything as it is
      cases readJson BuildResult.decode r <;> simp [Coordinator.step?, Coordinator.stepAt?]
    · simp [showResult_fst]
  | log side =>
    simp only [BuildRoute.call?, handle, hsegment]
    split
    · rfl
    · simp [openLog_fst]
  | hijack => simp [BuildRoute.call?, handle, hsegment, hijackBuild_fst]
  | abort => simp [BuildRoute.call?, handle, hsegment, abortBuild_fst]

/-- A request to a build whose path has no proper id does nothing. -/
private theorem handle_build_of_no_id {segment : List Char}
    (hid : ∀ raw id, segmentText? segment = some raw → parseId raw ≠ .ok id) (route : BuildRoute) :
    (Route.build segment route).call? x r = none ∧ (handle x c r (.build segment route)).1 = c := by
  cases hsegment : segmentText? segment with
  -- the segment is no text: refused before any handler is asked
  | none =>
    refine ⟨by simp [Route.call?, hsegment], ?_⟩
    cases route with
    | log side =>
      simp only [handle, hsegment]
      split <;> rfl
    | record | bits | result | hijack | abort => simp only [handle, hsegment, answer]
  | some raw =>
    cases hraw : parseId raw with
    | ok id => exact absurd hraw (hid raw id hsegment)
    -- the text is no identifier: each handler looks at it first
    | error a =>
      refine ⟨by simp [Route.call?, hsegment, hraw], ?_⟩
      cases route with
      | record => simp only [handle, hsegment, showBuild_fst]
      | bits =>
        simp only [handle, hsegment, uploadBits, fetchBits, hraw]
        split <;> rfl
      | result =>
        simp only [handle, hsegment]
        split
        · exact putResult_fst_of_error c r hraw
        · exact showResult_fst c raw
      | log side =>
        simp only [handle, hsegment]
        split
        · rfl
        · exact openLog_fst c raw side
      | hijack => simp only [handle, hsegment, hijackBuild_fst]
      | abort => simp only [handle, hsegment, abortBuild_fst]

/-- After a request the coordinator is as what the request asks of it leaves it. -/
theorem receive_fst (hfree : c.registry.find? x.freshId = none) :
    (r.call? x).elim (some c) c.step? = some (receive x c r).1 := by
  unfold receive Request.call?
  cases Route.ofPath? r.target.path with
  | none => rfl
  | some route =>
    -- a method that the route does not take is refused before any handler is asked
    by_cases hallows : route.allows r.method = true
    · simp only [hallows, if_true]
      cases route with
      | health => rfl
      | builds =>
        simp only [Route.call?, handle]
        split
        · rw [createBuild_fst]
          -- a new build needs a body that can be read and an identifier that is free
          cases readJson Submission.decode r <;> simp [Coordinator.step?, hfree]
        · rfl
      | build segment route =>
        by_cases hid : ∃ raw id, segmentText? segment = some raw ∧ parseId raw = .ok id
        · obtain ⟨raw, id, hsegment, hid⟩ := hid
          exact handle_build_of_id x c r raw hsegment hid route
        · obtain ⟨hnone, hsame⟩ := handle_build_of_no_id x c r
            (fun raw id hsegment hraw => hid ⟨raw, id, hsegment, hraw⟩) route
          rw [hnone, hsame]
          rfl
    · simp [hallows, answer]

variable {x c r}

/-- What a request asks for, its route asks for. -/
private theorem route_of_call? {s : CoordinatorStep} (h : r.call? x = some s) :
    ∃ route, Route.ofPath? r.target.path = some route ∧ route.allows r.method = true ∧
      route.call? x r = some s := by
  unfold Request.call? at h
  split at h
  · cases h
  · rename_i route hroute
    split at h
    · rename_i hallows
      exact ⟨route, hroute, hallows, h⟩
    · cases h

/-- What is asked of a build is asked by a route to it. -/
private theorem build_of_call? {route : Route} {id : BuildId} {y : BuildStep}
    (h : route.call? x r = some (.build id y)) :
    ∃ segment raw part, route = .build segment part ∧ segmentText? segment = some raw ∧
      parseId raw = .ok id ∧ part.call? x r = some y := by
  unfold Route.call? at h
  split at h
  · cases h
  -- the route of all builds makes a call, but none about a build
  · split at h
    · split at h <;> cases h
    · cases h
  · rename_i segment part
    split at h
    · rename_i id' hid
      obtain ⟨raw, hsegment, hraw⟩ := Option.map_eq_some_iff.mp hid
      obtain ⟨y', hy, heq⟩ := Option.map_eq_some_iff.mp h
      cases heq
      exact ⟨segment, raw, part, rfl, hsegment, hraw, hy⟩
    · cases h
    · cases h

/-- A report is asked for by putting a result. -/
private theorem result_of_call? {part : BuildRoute} {res : BuildResult}
    (h : part.call? x r = some (.recordResult res)) :
    part = .result ∧ r.method = "PUT" ∧ readJson BuildResult.decode r = .value res := by
  unfold BuildRoute.call? at h
  split at h
  · split at h <;> cases h
  · split at h
    · rename_i hput
      split at h
      · rename_i res' hread
        cases h
        exact ⟨rfl, hput, hread⟩
      · cases h
      · cases h
    · cases h
  · cases h
  · cases h
  · cases h
  · cases h

/-- A report of a build that is there is answered with what the coordinator says to it. -/
theorem receive_result {id : BuildId} {res : BuildResult} {b : Build}
    (hcall : r.call? x = some (.build id (.recordResult res)))
    (hb : c.registry.find? id = some b) :
    (receive x c r).2 = .done (match c.recordResult id res with
      | .ok (_, res) => .json 200 res.toValue
      | .error e => .ofError e) := by
  obtain ⟨route, hroute, hallows, hroute'⟩ := route_of_call? hcall
  obtain ⟨segment, raw, part, rfl, hsegment, hid, hpart⟩ := build_of_call? hroute'
  obtain ⟨rfl, hput, hread⟩ := result_of_call? hpart
  have heq : receive x c r = putResult c raw r := by
    rw [hput] at hallows
    simp only [receive, hroute, handle, hsegment, hput, hallows, if_true]
  have hget : c.get id = .ok b.record := by
    simp [Coordinator.get, Registry.get, hb, Coordinator.ofRegistry, Except.map]
  rw [heq]
  simp only [putResult, hread, hid, hget]
  cases c.recordResult id res <;> simp [answer, refuse]

end Http

/-! ## §3 Runs of the Broker -/

namespace Coordinator

/-- What the steps of a run of the broker ask of its coordinator. -/
def calls (steps : List BrokerStep) : List CoordinatorStep :=
  steps.filterMap BrokerStep.call?

theorem call_of_serveStep? {c c' : Coordinator} {x : BrokerStep} (h : c.serveStep? x = some c') :
    x.call?.elim (some c) c.step? = some c' := by
  cases x with
  | inside s => exact h
  | request x r =>
    simp only [serveStep?] at h
    split at h
    · cases h
    · rename_i hfree
      rw [← h]
      exact Http.receive_fst x c r (by simpa using hfree)

/-- A run of the broker is a run of its coordinator. -/
theorem play_of_serve {c c' : Coordinator} {steps : List BrokerStep}
    (h : c.serve steps = some c') : c.play (calls steps) = some c' := by
  refine Runs.run_induction (motive := fun xs mid => c.play (calls xs) = some mid) rfl ?_ h
  intro xs mid x mid' hplay hstep
  have hcall := call_of_serveStep? hstep
  unfold calls at hplay ⊢
  rw [List.filterMap_append]
  cases hx : x.call? with
  | none =>
    rw [hx, Option.elim_none] at hcall
    cases hcall
    simpa [hx] using hplay
  | some s =>
    rw [hx, Option.elim_some] at hcall
    have hlast : List.filterMap BrokerStep.call? [x] = [s] := by simp [hx]
    rw [hlast]
    exact Runs.run_concat.mpr ⟨mid, hplay, hcall⟩

end Coordinator

end BuildBroker
