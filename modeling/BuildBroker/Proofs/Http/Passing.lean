import BuildBroker.Proofs.Http.Handlers

/-!
# Requests That Are Passed On

A caller reaches the executor through the broker in two ways, by an abort and by a session. Every
other request, and every one that is refused, is answered without the executor.

Main statements:
- `Request.endpoint?`: the build, and the kind of address, that a request is to be passed on to.
- `address?_receive`: a request is passed on exactly to the address that is recorded for it.
- `receive_of_refused`: where none is recorded the request is answered at once.
-/

namespace BuildBroker.Http

/-- The address that a request is passed on to, if it is. -/
def Pending.address? : Pending → Option Url
  | .relay q => some q.url
  | .tunnel url => some url
  | .done _ | .stuck | .upload _ _ | .fetch _ _ | .socket _ _ => none

/-- The kind of address that a route of a build is about. -/
def BuildRoute.endpoint? : BuildRoute → Option EndpointKind
  | .abort => some .abort
  | .hijack => some .hijack
  | .record | .bits | .result | .log _ => none

/-- The build that a request names, and the kind of address that it is to be passed on to. -/
def Request.endpoint? (r : Request) : Option (BuildId × EndpointKind) :=
  match Route.ofPath? r.target.path with
  | some (.build segment route) =>
    match (segmentText? segment).map parseId, route.endpoint? with
    | some (.ok id), some kind => some (id, kind)
    | _, _ => none
  | _ => none

/-- Whether a request can be passed on to an address of a kind: the body of an abort is collected
before. -/
def Request.Ready (r : Request) : EndpointKind → Prop
  | .abort => ∃ body, collect r.body = .whole body
  | .hijack => True

variable {x : Context} {c : Coordinator} {r : Request} {raw : String} {id : BuildId}

/-! ## §1 Handlers -/

/-- An abort is passed on if its body can be collected and there is an address for it. -/
private theorem abortBuild_of_id (hid : parseId raw = .ok id) {body : Bytes}
    (hbody : collect r.body = .whole body) :
    abortBuild c raw r = (c, match c.endpoint id .abort with
      | .ok url => .relay ⟨url, r.method, uploadType? r, body⟩
      | .error e => .done (.ofError e)) := by
  simp only [abortBuild, hbody, hid]
  cases c.endpoint id .abort <;> rfl

private theorem hijackBuild_of_id (hid : parseId raw = .ok id) :
    hijackBuild c raw = (c, match c.endpoint id .hijack with
      | .ok url => .tunnel url
      | .error e => .done (.ofError e)) := by
  simp only [hijackBuild, hid]
  cases c.endpoint id .hijack <;> rfl

/-! ## §2 Requests -/

/-- A request that is to be passed on is one of two. -/
private theorem route_of_endpoint? {kind : EndpointKind} (h : r.endpoint? = some (id, kind)) :
    ∃ segment raw route, Route.ofPath? r.target.path = some (.build segment route) ∧
      segmentText? segment = some raw ∧ parseId raw = .ok id ∧ route.endpoint? = some kind := by
  unfold Request.endpoint? at h
  split at h
  · rename_i segment route hroute
    split at h
    · rename_i id' kind' hid hkind
      obtain ⟨rfl, rfl⟩ := Prod.mk.inj (Option.some.inj h)
      obtain ⟨raw, hraw, hparse⟩ := Option.map_eq_some_iff.mp hid
      exact ⟨segment, raw, route, hroute, hraw, hparse, hkind⟩
    · cases h
  · cases h

/-- What becomes of an abort whose body can be collected. -/
theorem receive_abort (h : r.endpoint? = some (id, .abort)) {body : Bytes}
    (hbody : collect r.body = .whole body) :
    receive x c r = (c, match c.endpoint id .abort with
      | .ok url => .relay ⟨url, r.method, uploadType? r, body⟩
      | .error e => .done (.ofError e)) := by
  obtain ⟨segment, raw, route, hroute, hraw, hid, hkind⟩ := route_of_endpoint? h
  cases route with
  | abort =>
    have hreceive : receive x c r = abortBuild c raw r := by
      simp [receive, hroute, Route.allows, handle, hraw]
    rw [hreceive, abortBuild_of_id hid hbody]
  | record | bits | result | log | hijack => cases hkind

/-- What becomes of a request that is to be passed on. -/
theorem receive_of_endpoint? {kind : EndpointKind} (h : r.endpoint? = some (id, kind))
    (hready : r.Ready kind) :
    (receive x c r).1 = c ∧
      match c.endpoint id kind with
      | .ok url => (receive x c r).2.address? = some url
      | .error e => (receive x c r).2 = .done (.ofError e) := by
  obtain ⟨segment, raw, route, hroute, hraw, hid, hkind⟩ := route_of_endpoint? h
  cases route with
  | abort =>
    cases hkind
    obtain ⟨body, hbody⟩ := hready
    rw [receive_abort h hbody]
    cases c.endpoint id .abort <;> exact ⟨rfl, rfl⟩
  | hijack =>
    cases hkind
    have hreceive : receive x c r = hijackBuild c raw := by
      simp [receive, hroute, Route.allows, handle, hraw]
    rw [hreceive, hijackBuild_of_id hid]
    cases c.endpoint id .hijack <;> exact ⟨rfl, rfl⟩
  | record | bits | result | log => cases hkind

/-- A request to a build is passed on only by the two routes that are for that. -/
private theorem address?_handle_build {segment : List Char} {route : BuildRoute}
    (hraw : segmentText? segment = some raw)
    (h : ∀ id kind, parseId raw = .ok id → route.endpoint? = some kind → ¬r.Ready kind) :
    (handle x c r (.build segment route)).2.address? = none := by
  -- only the last two routes need `h`: the others wait for something at the coordinator, or answer
  cases route with
  | record =>
    obtain ⟨a, hout⟩ := showBuild_cases c raw
    simp only [handle, hraw, hout, answer, Pending.address?]
  | bits =>
    simp only [handle, hraw]
    split
    · rcases uploadBits_cases c r raw with ⟨a, hout⟩ | ⟨id, c', u, -, -, hout⟩
      · simp only [hout, answer, Pending.address?]
      · simp only [hout, Pending.address?]
    · rcases fetchBits_cases x c raw with ⟨a, hout⟩ | ⟨id, c', f, -, -, hout⟩
      · simp only [hout, answer, Pending.address?]
      · simp only [hout, Pending.address?]
  | result =>
    simp only [handle, hraw]
    split
    · rcases putResult_cases c r raw with hout | ⟨c', a, hout⟩
      · simp only [hout, Pending.address?]
      · simp only [hout, answer, Pending.address?]
    · obtain ⟨a, hout⟩ := showResult_cases c raw
      simp only [hout, answer, Pending.address?]
  | log side =>
    simp only [handle, hraw]
    split
    · rfl
    · rcases openLog_cases c raw side with ⟨a, hout⟩ | ⟨id, hout⟩
      · simp only [hout, answer, Pending.address?]
      · simp only [hout, Pending.address?]
  -- passing on waits for the whole body, and for the endpoint of this build
  | abort =>
    simp only [handle, hraw]
    rcases abortBuild_cases c r raw with hout | ⟨a, hout⟩ | ⟨id, _, body, hid, hbody, -⟩
    · simp only [hout, Pending.address?]
    · simp only [hout, answer, Pending.address?]
    · exact absurd ⟨body, hbody⟩ (h id .abort hid rfl)
  | hijack =>
    simp only [handle, hraw]
    rcases hijackBuild_cases c raw with ⟨a, hout⟩ | ⟨id, _, hid, -⟩
    · simp only [hout, answer, Pending.address?]
    · exact absurd trivial (h id .hijack hid rfl)

/-- A request for something else, or that cannot be read to its end, is passed on to nobody. -/
theorem address?_of_not_ready
    (h : ∀ id kind, r.endpoint? = some (id, kind) → ¬r.Ready kind) :
    (receive x c r).2.address? = none := by
  unfold receive
  cases hroute : Route.ofPath? r.target.path with
  | none => rfl
  | some route =>
    dsimp only
    split
    · cases route with
      | health => rfl
      -- a build is made here, or refused
      | builds =>
        simp only [handle]
        split
        · rcases createBuild_cases x c r with hout | ⟨c', a, hout⟩
          · rw [hout]
            rfl
          · rw [hout]
            rfl
        · rfl
      | build segment route =>
        cases hraw : segmentText? segment with
        | none =>
          cases route with
          | log side =>
            simp only [handle, hraw]
            split <;> rfl
          | record | bits | result | hijack | abort => simp [handle, hraw, answer, Pending.address?]
        | some raw =>
          -- only here is an endpoint asked for, and `h` says that it is not
          refine address?_handle_build hraw ?_
          intro id kind hid hkind
          exact h id kind (by simp [Request.endpoint?, hroute, hraw, hid, hkind])
    · rfl

/-- A request is passed on exactly to the address that is recorded for what it names. -/
theorem address?_receive (x : Context) (c : Coordinator) (r : Request) (url : Url) :
    (receive x c r).2.address? = some url ↔
      ∃ id kind, r.endpoint? = some (id, kind) ∧ r.Ready kind ∧ c.endpoint id kind = .ok url := by
  constructor
  · intro haddress
    -- a request that is ready waits for its endpoint; any other has no address at all
    by_cases hready : ∃ id kind, r.endpoint? = some (id, kind) ∧ r.Ready kind
    · obtain ⟨id, kind, hasks, hready⟩ := hready
      refine ⟨id, kind, hasks, hready, ?_⟩
      have hreceive := (receive_of_endpoint? (x := x) (c := c) hasks hready).2
      cases hendpoint : c.endpoint id kind with
      | ok url' =>
        simp only [hendpoint, haddress, Option.some.injEq] at hreceive
        rw [hreceive]
      | error e =>
        simp only [hendpoint] at hreceive
        rw [hreceive] at haddress
        cases haddress
    · have hnone : (receive x c r).2.address? = none :=
        address?_of_not_ready fun id kind hasks hready' => hready ⟨id, kind, hasks, hready'⟩
      rw [hnone] at haddress
      cases haddress
  · rintro ⟨id, kind, hasks, hready, hendpoint⟩
    have hreceive := (receive_of_endpoint? (x := x) (c := c) hasks hready).2
    simpa only [hendpoint] using hreceive

/-- Where no address is recorded the request is answered at once, and nothing changes. -/
theorem receive_of_refused {kind : EndpointKind} {e : CoordinatorError}
    (h : r.endpoint? = some (id, kind)) (hready : r.Ready kind) (he : c.endpoint id kind = .error e) :
    receive x c r = (c, .done (.ofError e)) := by
  obtain ⟨hsame, hanswer⟩ := receive_of_endpoint? (x := x) (c := c) h hready
  simp only [he] at hanswer
  exact Prod.ext hsame hanswer

end BuildBroker.Http
