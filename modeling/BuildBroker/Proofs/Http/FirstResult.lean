import BuildBroker.Proofs.Coordinator.Completion
import BuildBroker.Proofs.Http.Requests

/-!
# The First Result Wins

Results come in through the coordinator or as requests, beside everything else that goes on at the
broker. Of all valid ones that are reported of a build the first one becomes its result, and it stays
its result.

Main statements:
- `Coordinator.first_result_wins`: the phase, the status, the log and the answers to reports.
-/

namespace BuildBroker.Coordinator

open Http (Request)

variable {settings : CoordinatorSettings} {steps : List BrokerStep} {c : Coordinator}
variable {id : BuildId} {b : Build}

/-- The answer to a valid report, by the valid results that were reported of the build before. -/
def reportAnswer (id : BuildId) (r : BuildResult) : List BuildResult → Http.Response
  | [] => .json 200 r.toValue
  | _ :: _ => .ofError (.registry (.alreadyCompleted id))

/-- **The first result wins.** At any time of any run of the broker a build is completed exactly if
its log is closed, and exactly if it has a status, which is not blank; the status is that of the
first valid report. The first valid report succeeds and every later one is refused, whether it comes
in as a request or not. And as soon as there has been a valid report, no step takes anything from the
result any more, nor adds to the log. -/
theorem first_result_wins (h : (Coordinator.mk settings .empty).serve steps = some c)
    (hb : c.registry.find? id = some b) {reports : List BuildResult}
    (hreports : (Coordinator.mk settings .empty).reports id (calls steps) = reports) :
    (b.record.phase = .completed ↔ b.log.closed = true) ∧
    (b.log.closed = true ↔ b.record.status ≠ none) ∧
    (∀ status, b.record.status = some status → Text.allBlank status = false) ∧
    b.record.status = reports.head?.map (·.status) ∧
    (∀ r, r.validate = .ok () →
      (reports = [] → ∃ c', c.recordResult id r = .ok (c', r)) ∧
      (reports ≠ [] → c.recordResult id r = .error (.registry (.alreadyCompleted id))) ∧
      ∀ x q, Request.call? x q = some (.build id (.recordResult r)) →
        (Http.receive x c q).2 = .done (reportAnswer id r reports)) ∧
    (reports ≠ [] → ∀ more c' b', c.serve more = some c' → c'.registry.find? id = some b' →
      b'.record.phase = .completed ∧ b'.record.status = b.record.status ∧
        b'.log.history = b.log.history) := by
  have hplay := play_of_serve h
  have hsettled : b.Settled := settled_of_play hplay hb
  have hstatus : b.record.status = reports.head?.map (·.status) := by
    rw [← hreports]
    exact status_eq_reports hplay hb
  -- there has been a report exactly if there is a status
  have hclosed : b.log.closed = true ↔ reports ≠ [] := by
    rw [← hsettled.status, hstatus]
    cases reports <;> simp
  have hfirst : ∀ r : BuildResult, r.validate = .ok () → reports = [] →
      ∃ c', c.recordResult id r = .ok (c', r) := by
    intro r hvalid hnone
    have hopen : b.log.closed = false := by
      cases hlog : b.log.closed with
      | false => rfl
      | true => exact absurd hnone (hclosed.mp hlog)
    obtain ⟨c', _, heq, _⟩ := recordResult_of_open hb hvalid hopen
    exact ⟨c', heq⟩
  have hlater : ∀ r : BuildResult, r.validate = .ok () → reports ≠ [] →
      c.recordResult id r = .error (.registry (.alreadyCompleted id)) :=
    fun r hvalid hsome => recordResult_of_closed hb hvalid (hclosed.mpr hsome)
  refine ⟨hsettled.phase, hsettled.status.symm, hsettled.worded, hstatus, ?_, ?_⟩
  · intro r hvalid
    refine ⟨hfirst r hvalid, hlater r hvalid, ?_⟩
    intro x q hcall
    -- the answer to the request is read off what recording the result gives
    rw [Http.receive_result hcall hb]
    cases hcase : reports with
    | nil =>
      obtain ⟨c', heq⟩ := hfirst r hvalid hcase
      rw [heq]
      rfl
    | cons first others =>
      rw [hlater r hvalid (by simp [hcase])]
      rfl
  · intro hsome more c' b' hmore hb'
    have hdone : b.record.phase = .completed := hsettled.phase.mpr (hclosed.mpr hsome)
    have hreach := reaches_between (play_of_serve hmore) hb hb'
    have hfinal := (hsettled.final hdone).of_reaches hreach
    exact ⟨hfinal.phase, hfinal.status, hfinal.history⟩

/-- A request to put the result of a build, with its body. -/
def resultRequest (id : BuildId) (body : String) : Request :=
  ⟨"PUT", ⟨("/builds/" ++ id.toText ++ "/result").toList, none⟩,
    [⟨"content-type", Bytes.ofText Http.Response.jsonType⟩], .ofBytes (Bytes.ofText body)⟩

/-- A caller far from other callers. -/
def quietCaller : Http.Context :=
  ⟨0, ⟨⟨2026, 1, 1⟩, 0, 0⟩, ⟨99⟩, false⟩

/-- The result that a step reports, and the build that it is about. -/
private def reportOf? : CoordinatorStep → Option (BuildId × BuildResult)
  | .build id (.recordResult r) => some (id, r)
  | _ => none

/-- A result is requested while an upload is asking the executor, after one that is blank. -/
def racingResult : List BrokerStep :=
  [.inside (.create ⟨7⟩ ⟨⟨2026, 1, 1⟩, 0, 0⟩ ⟨"image", "", "", .empty⟩),
    .inside (.build ⟨7⟩ (.upload ⟨none, .ofBytes [1]⟩)), .inside (.build ⟨7⟩ (.uploadTurn 0 0)),
    .inside (.build ⟨7⟩ (.append [65])), .inside (.build ⟨7⟩ (.uploadTurn 0 0)),
    .request quietCaller (resultRequest ⟨7⟩ "\x7b\"status\":\" \"\x7d"),
    .request quietCaller (resultRequest ⟨7⟩ "\x7b\"status\":\"fine\"\x7d")]

/-- The blank result is refused, the other one stays, and so does the log: a third result is refused
whatever it says, also when it comes in as a request. -/
theorem first_result_wins_racingResult :
    ∃ c b, (Coordinator.mk ⟨"h:1", 1000, 60000⟩ .empty).serve racingResult = some c ∧
      c.registry.find? ⟨7⟩ = some b ∧ b.record.phase = .completed ∧
      b.record.status = some "fine" ∧
      (∀ r, r.validate = .ok () →
        c.recordResult ⟨7⟩ r = .error (.registry (.alreadyCompleted ⟨7⟩))) ∧
      (Http.receive quietCaller c (resultRequest ⟨7⟩ "\x7b\"status\":\"late\"\x7d")).2 =
        .done (.ofError (.registry (.alreadyCompleted ⟨7⟩))) ∧
      ∀ more c' b', c.serve more = some c' → c'.registry.find? ⟨7⟩ = some b' →
        b'.record.status = some "fine" ∧ b'.log.history = b.log.history := by
  have hfound : (((Coordinator.mk ⟨"h:1", 1000, 60000⟩ .empty).serve racingResult).bind
      (·.registry.find? ⟨7⟩)).isSome = true := by decide +kernel
  obtain ⟨b, hb'⟩ := Option.isSome_iff_exists.mp hfound
  obtain ⟨c, hc, hb⟩ := Option.bind_eq_some_iff.mp hb'
  have hreports : (Coordinator.mk ⟨"h:1", 1000, 60000⟩ .empty).reports ⟨7⟩ (calls racingResult) =
      [⟨"fine"⟩] := by decide +kernel
  -- the request of a third report is the call that records it
  have hcall : (Request.call? quietCaller
      (resultRequest ⟨7⟩ "\x7b\"status\":\"late\"\x7d")).bind reportOf? =
        some (⟨7⟩, ⟨"late"⟩) := by decide +kernel
  obtain ⟨x, hx, hreport⟩ := Option.bind_eq_some_iff.mp hcall
  have hlate : x = .build ⟨7⟩ (.recordResult ⟨"late"⟩) := by
    unfold reportOf? at hreport
    split at hreport
    · cases hreport
      rfl
    · cases hreport
  obtain ⟨hphase, hclosed, _, hstatus, hanswers, hkept⟩ := first_result_wins hc hb hreports
  have hfine : b.record.status = some "fine" := hstatus
  -- there is a report, so the build is completed and its log closed
  refine ⟨c, b, hc, hb, hphase.mpr (hclosed.mpr (by simp [hfine])), hfine, ?_, ?_, ?_⟩
  · intro r hvalid
    exact (hanswers r hvalid).2.1 (by simp)
  · exact (hanswers ⟨"late"⟩ (by decide)).2.2 quietCaller _ (hlate ▸ hx)
  · intro more c' b' hmore hb'
    obtain ⟨_, hstays, hhistory⟩ := hkept (by simp) more c' b' hmore hb'
    exact ⟨hstays.trans hfine, hhistory⟩

end BuildBroker.Coordinator
