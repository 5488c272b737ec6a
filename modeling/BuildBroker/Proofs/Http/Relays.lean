import BuildBroker.Proofs.Coordinator.Sessions
import BuildBroker.Proofs.Executor.Trails
import BuildBroker.Proofs.Http.FirstResult

/-!
# Aborts That Are Passed On

An abort is passed on with the method, the body and the type that the caller gave it, to the address
that is recorded for the build. What the caller is answered is the last answer on a trail of
references: the answer of the recorded address itself, if that does not refer to another place.

Main statements:
- `Headers.text?_contentType`: a type that is text is passed on as it was written.
- `says_ofRelay`: what is sent says what the caller said.
- `relay_verbatim_iff`: which answers come back as they are, after one request.
- `abort_relayed`: what becomes of an abort.
-/

namespace BuildBroker

namespace Http

/-! ## §1 Types -/

/-- The declared type of a message, as far as it is text. -/
def Headers.textType? (hs : Headers) : Option Bytes :=
  (hs.first? "content-type").filter (·.all isTextByte)

/-- The header that declares the type of a message, if the type is text. -/
def Headers.typeHeaders (hs : Headers) : Headers :=
  (hs.textType?.map (Header.mk "content-type")).toList

private theorem ascii_of_isTextByte {b : UInt8} (h : isTextByte b = true) : b < 0x80 := by
  simp only [isTextByte, Bool.or_eq_true, Bool.and_eq_true, decide_eq_true_eq] at h
  rcases h with ⟨-, h⟩ | rfl
  · exact UInt8.lt_trans h (by decide)
  · decide

private theorem isValueByte_of_isTextByte {b : UInt8} (h : isTextByte b = true) :
    isValueByte b = true := by
  simp only [isTextByte, isValueByte, Bool.or_eq_true, Bool.and_eq_true, decide_eq_true_eq] at *
  rcases h with ⟨hlow, hhigh⟩ | h
  · exact .inl ⟨hlow, UInt8.ne_of_lt hhigh⟩
  · exact .inr h

/-- A type that is text is passed on as it was written, and any other is not passed on. -/
theorem Headers.text?_contentType (hs : Headers) :
    (hs.text? "content-type").map Bytes.ofText = hs.textType? := by
  unfold text? textType?
  cases hs.first? "content-type" with
  | none => rfl
  | some v =>
    by_cases htext : v.all isTextByte = true
    · have hascii : ∀ b ∈ v, b < 0x80 :=
        fun b hb => ascii_of_isTextByte (List.all_eq_true.mp htext b hb)
      have hread := Bytes.toText?_of_ascii hascii
      rw [Option.bind_some, if_pos htext, Option.filter_some, if_pos htext, hread, Option.map_some,
        Bytes.ofText_of_ascii hascii hread]
    · rw [Option.bind_some, if_neg htext, Option.filter_some, if_neg htext]
      rfl

/-- A type that was read as text can be declared again. -/
theorem typeHeader_text? (hs : Headers) :
    typeHeader (hs.text? "content-type") = hs.typeHeaders := by
  -- the name of the header is a token in lower case
  have hname : (Bytes.ofText "content-type").isEmpty = false ∧
      (Bytes.ofText "content-type").all isTokenByte = true ∧
      String.ofList ("content-type".toList.map Char.toLower) = "content-type" := by decide +kernel
  obtain ⟨hsome, htoken, hlower⟩ := hname
  have htype := hs.text?_contentType
  unfold typeHeader Headers.typeHeaders
  rw [← htype]
  cases htext : hs.text? "content-type" with
  | none => rfl
  | some t =>
    rw [htext, Option.map_some] at htype
    obtain ⟨-, hall⟩ := Option.filter_eq_some_iff.mp htype.symm
    have hvalue : (Bytes.ofText t).all isValueByte = true := by
      rw [List.all_eq_true] at hall ⊢
      exact fun b hb => isValueByte_of_isTextByte (hall b hb)
    have hparts : Header.ofParts? "content-type" (Bytes.ofText t) =
        some ⟨"content-type", Bytes.ofText t⟩ := by
      simp only [Header.ofParts?, hsome, htoken, hvalue, hlower]
      rfl
    rw [Option.bind_some, hparts]
    rfl

end Http

namespace Executor

open Http

/-! ## §2 What is sent -/

/-- A request on its way out says what a caller's request says, at an address. -/
structure Outgoing.Says (o : Outgoing) (r : Request) (body : Bytes) (url : Url) : Prop where
  method : o.method = r.method
  body : o.body = body
  contentType : o.headers.first? "content-type" = r.headers.textType?
  /-- The user information of the address is told by a header. -/
  address : withoutUser o.url = withoutUser url
  sole : ∀ h ∈ o.headers, h.name = "content-type" ∨ h.name = "authorization"

/-- What is sent for a caller's request says what the caller said. -/
theorem says_ofRelay (r : Request) (body : Bytes) (url : Url) :
    (Outgoing.ofRelay ⟨url, r.method, r.headers.text? "content-type", body⟩).Says r body url := by
  have htype : (r.headers.text? "content-type").map (fun t => Header.mk "content-type"
      (Bytes.ofText t)) = r.headers.textType?.map (Header.mk "content-type") := by
    rw [← r.headers.text?_contentType, Option.map_map]
    rfl
  have hfirst : ∀ v : Option Bytes,
      Headers.first? (v.map (Header.mk "content-type")).toList "content-type" = v := by
    intro v
    cases v <;> rfl
  have hsole : ∀ v : Option Bytes, ∀ h ∈ (v.map (Header.mk "content-type")).toList,
      h.name = "content-type" := by
    intro v h hh
    cases v with
    | none => cases hh
    | some v =>
      cases List.mem_singleton.mp hh
      rfl
  unfold Outgoing.ofRelay Outgoing.make
  simp only [htype]
  -- an address with user information puts a header for it before the type
  split
  · refine ⟨rfl, rfl, hfirst _, ?_, ?_⟩
    · cases ha : url.authority <;> simp [withoutUser, ha]
    · intro h hh
      rcases List.mem_cons.mp hh with rfl | hh
      · exact .inr rfl
      · exact .inl (hsole _ h hh)
  · exact ⟨rfl, rfl, hfirst _, rfl, fun h hh => .inl (hsole _ h hh)⟩

theorem scheme_ofRelay (q : RelayRequest) : (Outgoing.ofRelay q).url.scheme = q.url.scheme := by
  unfold Outgoing.ofRelay Outgoing.make
  split <;> rfl

/-! ## §3 What comes back -/

variable {q : RelayRequest} {send : Outgoing → Reply}

/-- An answer comes back as it is, after one request, exactly if it refers to no other place and has
come to its end. -/
theorem relay_verbatim_iff (hweb : isWebScheme q.url.scheme = true) {a : Answer}
    (hsend : send (.ofRelay q) = .answer a) :
    relay q send =
        ([.ofRelay q], some (.ok ⟨a.status, a.headers.text? "content-type", a.body⟩)) ↔
      a.reference? = none ∧ a.complete = true := by
  rw [← scheme_ofRelay] at hweb
  constructor
  · intro hrelay
    obtain ⟨x, -, hread⟩ := trail_of_consult Answer.relayed send hweb
    obtain ⟨z, hlast, hmeans⟩ := (hread _).mp (congrArg (·.2) hrelay)
    have hsent : (consult Answer.relayed (.ofRelay q) send).1 = [.ofRelay q] :=
      congrArg (·.1) hrelay
    rw [hsent] at hlast
    obtain rfl : Outgoing.ofRelay q = z := Option.some.inj hlast
    rw [hsend] at hmeans
    -- of all that a reply can mean, only an answer that stands is good
    generalize hgood : (Except.ok (RelayAnswer.mk a.status _ a.body) : Except ExecutorError _) = v
      at hmeans
    cases hmeans with
    | stands hstands =>
      refine ⟨hstands, ?_⟩
      by_contra hbroken
      simp [Answer.relayed, hbroken] at hgood
    | elsewhere _ => cases hgood
  · rintro ⟨hstands, hcomplete⟩
    have hread : a.relayed = .ok ⟨a.status, a.headers.text? "content-type", a.body⟩ := by
      simp [Answer.relayed, hcomplete]
    rw [← hread]
    exact consult_of_stands hweb hsend hstands

end Executor

namespace Http

open Executor

/-! ## §4 Aborts -/

/-- **What becomes of an abort.** The abort of a build with a recorded address changes nothing. What
is sent first says what the caller said, at that address; an address at which no request can be sent
is not asked. What is sent after it is led to by the answers, and what the caller is told is what the
last reply means. The answer of the recorded address comes back as it is, after one request, exactly
if it refers to no other place and has come to its end; an answer that leads to another place is not
told at all, and that place is asked instead. -/
theorem abort_relayed {x : Context} {c : Coordinator} {r : Request} {id : BuildId} {body : Bytes}
    {url : Url} {q : RelayRequest} (hasks : r.endpoint? = some (id, .abort))
    (hbody : collect r.body = .whole body) (hurl : c.endpoint id .abort = .ok url)
    (hq : q = ⟨url, r.method, r.headers.text? "content-type", body⟩) (send : Outgoing → Reply) :
    receive x c r = (c, .relay q) ∧ (Outgoing.ofRelay q).Says r body url ∧
      (isWebScheme url.scheme = false → relay q send = ([], some (.error (.unreachable none)))) ∧
      (isWebScheme url.scheme = true →
        (∃ o, Trail send followLimit (.ofRelay q) (relay q send).1 o) ∧
        (∀ v, (relay q send).2 = some v ↔
          ∃ z, (relay q send).1.getLast? = some z ∧ Means Answer.relayed (send z) v) ∧
        (∀ o, LeadsTo send (.ofRelay q) o → [.ofRelay q, o] <+: (relay q send).1) ∧
        ∀ a, send (.ofRelay q) = .answer a →
          (relay q send =
              ([.ofRelay q], some (.ok ⟨a.status, a.headers.text? "content-type", a.body⟩)) ↔
            a.reference? = none ∧ a.complete = true)) ∧
      ∀ a : Answer, relayAnswer (.ok ⟨a.status, a.headers.text? "content-type", a.body⟩) =
        ⟨a.status, a.headers.typeHeaders, a.body⟩ := by
  subst hq
  refine ⟨?_, says_ofRelay r body url, ?_, ?_, ?_⟩
  · rw [receive_abort hasks hbody, hurl]
    rfl
  -- no client for the scheme, so nothing is sent
  · intro hnoweb
    simp [relay, consult, exchange, scheme_ofRelay, hnoweb, Outcome.read?]
  · intro hweb
    -- the exchange leaves a trail, and the last reply on it is what is read
    obtain ⟨o, htrail, hread⟩ := trail_of_consult Answer.relayed send
      (o := .ofRelay ⟨url, r.method, r.headers.text? "content-type", body⟩)
      (by rw [scheme_ofRelay, hweb])
    refine ⟨⟨o, htrail⟩, hread, ?_, fun a hsend => relay_verbatim_iff hweb hsend⟩
    exact fun o' hleads => htrail.second (by decide) hleads
  · intro a
    rw [relayAnswer, typeHeader_text?]

/-- A request to abort a build. -/
def abortRequest (id : BuildId) (body : Bytes) : Request :=
  ⟨"POST", ⟨("/builds/" ++ id.toText ++ "/abort").toList, none⟩,
    [⟨"content-type", Bytes.ofText "text/plain"⟩], .ofBytes body⟩

/-- The answer that an outcome can be seen elsewhere. -/
def seeElsewhere : Answer :=
  ⟨303, "See Other", [⟨"location", Bytes.ofText "/gone"⟩], [], true⟩

/-- An executor that says of aborts where their outcome can be seen. -/
def evasive (o : Outgoing) : Reply :=
  if o.method = "POST" then .answer seeElsewhere
  else .answer ⟨200, "OK", [⟨"content-type", Bytes.ofText "text/plain"⟩], Bytes.ofText "bye", true⟩

/-- The answer of the recorded address refers to another place. The caller is not told it, but what
is answered there to a request of another method without the body. -/
theorem abort_relayed_evasive :
    ∃ c q, Coordinator.smallShop.play Coordinator.acceptedLate = some c ∧
      receive Coordinator.quietCaller c (abortRequest ⟨7⟩ [33]) = (c, .relay q) ∧
      (relay q evasive).1.map (fun o => (o.method, o.body)) = [("POST", [33]), ("GET", [])] ∧
      (relay q evasive).2.map relayAnswer =
        some (.typed 200 "text/plain" (Bytes.ofText "bye")) ∧
      relay q evasive ≠ ([.ofRelay q], some (.ok ⟨303, none, []⟩)) := by
  -- the build was accepted with a place to abort at
  have hlast : (Coordinator.smallShop.play Coordinator.acceptedLate).map
      (fun c => (c.endpoint ⟨7⟩ .abort).toOption) = some (some Coordinator.nearbyBuilds) := by
    decide +kernel
  obtain ⟨c, hc, hoption⟩ := Option.map_eq_some_iff.mp hlast
  have hurl : c.endpoint ⟨7⟩ .abort = .ok Coordinator.nearbyBuilds := by
    cases hendpoint : c.endpoint ⟨7⟩ .abort with
    | ok url =>
      rw [hendpoint] at hoption
      exact congrArg Except.ok (Option.some.inj hoption)
    | error e =>
      rw [hendpoint] at hoption
      cases hoption
  obtain ⟨hreceive, -, -, hweb, -⟩ := abort_relayed
    (x := Coordinator.quietCaller) (r := abortRequest ⟨7⟩ [33]) (by decide +kernel) rfl hurl rfl evasive
  obtain ⟨-, -, -, hverbatim⟩ := hweb (by decide)
  refine ⟨c, _, hc, hreceive, by decide +kernel, by decide +kernel, ?_⟩
  intro hsame
  -- if the answer were relayed as it is, it would not refer elsewhere
  have hstands := (hverbatim seeElsewhere rfl).mp hsame
  exact absurd hstands.1 (by decide +kernel)

end Http

end BuildBroker
