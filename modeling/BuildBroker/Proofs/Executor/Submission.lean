import BuildBroker.Proofs.Text.Written
import BuildBroker.Proofs.Executor.Trails

/-!
# What Comes of a Delegation

A delegation is sent along a trail of references, and the reply at the end of the trail says what has
become of it.

Main statements:
- `acceptedEndpoints_eq`: that a blank body is passed over makes no difference.
- `Verdict`: what a reply means at the end of a trail.
- `submit_iff`: what is heard of a delegation is what the last reply means.
-/

namespace BuildBroker.Executor

open Http

/-! ## §1 Blank Bodies -/

/-- After the blanks of JSON a blank text is over, or a form feed follows. -/
theorem skipBlanks_of_blank {body : Bytes} (h : body.all Bytes.isAsciiBlank = true) :
    Json.skipBlanks body.symbols = [] ∨
      ∃ rest, Json.skipBlanks body.symbols = some '\x0c' :: rest := by
  have hblank : ∀ b ∈ body, b = 0x20 ∨ b = 0x09 ∨ b = 0x0A ∨ b = 0x0D ∨ b = 0x0C := by
    intro b hb
    have hall := List.all_eq_true.mp h b hb
    simpa [Bytes.isAsciiBlank, or_assoc] using hall
  have hascii : ∀ b ∈ body, b < 0x80 := by
    intro b hb
    rcases hblank b hb with rfl | rfl | rfl | rfl | rfl <;> decide
  rw [Bytes.symbols_of_ascii hascii]
  clear h hascii
  -- of the blanks of ASCII only the form feed is none of JSON
  induction body with
  | nil => exact .inl rfl
  | cons b rest ih =>
    have hrest := ih fun x hx => hblank x (by simp [hx])
    rcases hblank b (by simp) with rfl | rfl | rfl | rfl | rfl
    · exact hrest
    · exact hrest
    · exact hrest
    · exact hrest
    · exact .inr ⟨_, rfl⟩

/-- A blank text is no document. -/
theorem decodeBytes_of_blank {α : Type} {decode : Json.Doc → Json.Decoded α} {body : Bytes}
    (hdecode : decode .broken = .error .broken) (h : body.all Bytes.isAsciiBlank = true) :
    Json.decodeBytes decode body = .error .broken := by
  have hbroken : (Json.Reading.ofBytes body).doc = .broken := by
    simp only [Json.Reading.ofBytes, Json.readValue]
    -- no value begins where the text is over, or with a form feed
    rcases skipBlanks_of_blank h with hnone | ⟨rest, hfeed⟩
    · rw [hnone]
      rfl
    · rw [hfeed]
      rfl
  unfold Json.decodeBytes
  simp only [hbroken, hdecode]
  rfl

/-- The endpoints of an acceptance are those that its body decodes to: blank bodies, which are passed
over, do not decode. -/
theorem acceptedEndpoints_eq (body : Bytes) : acceptedEndpoints body =
    (Json.decodeBytes SessionEndpoints.decodeAcceptance body).toOption.getD .none := by
  unfold acceptedEndpoints
  split
  · rename_i hblank
    rw [decodeBytes_of_blank rfl hblank]
    rfl
  · rfl

/-! ## §2 Verdicts -/

/-- What the reply to the last request of a trail says about a delegation. -/
inductive Verdict : Reply → Except ExecutorError SessionEndpoints → Prop where
  | taken {a : Answer} {e : SessionEndpoints} : a.reference? = none → a.complete = true →
      a.status = createdStatus →
      Json.decodeBytes SessionEndpoints.decodeAcceptance a.body = .ok e → Verdict (.answer a) (.ok e)
  /-- The build has been taken, but where it can be reached cannot be read. -/
  | takenUnread {a : Answer} {problem : Json.DecodeError} : a.reference? = none →
      a.complete = true → a.status = createdStatus →
      Json.decodeBytes SessionEndpoints.decodeAcceptance a.body = .error problem →
      Verdict (.answer a) (.ok .none)
  | rejected {a : Answer} : a.reference? = none → a.complete = true → a.status ≠ createdStatus →
      Verdict (.answer a) (.error (.rejected a.status))
  /-- Of an answer whose body broke off not even the status counts. -/
  | brokenOff {a : Answer} : a.reference? = none → a.complete = false →
      Verdict (.answer a) (.error (.unreachable none))
  /-- The place referred to cannot be asked, or is one too many. -/
  | elsewhere {a : Answer} : a.reference? ≠ none → Verdict (.answer a) (.error (.unreachable none))
  | refused : Verdict .refused (.error (.unreachable none))
  | dropped : Verdict .dropped (.error (.unreachable none))

/-- What is read from an answer that stands is what it says. -/
theorem verdict_of_stays {a : Answer} (hstays : a.reference? = none) :
    Verdict (.answer a) a.verdict := by
  unfold Answer.verdict
  cases hcomplete : a.complete with
  | false => exact .brokenOff hstays hcomplete
  | true =>
    by_cases hstatus : a.status = createdStatus
    · rw [if_neg (by simp), if_pos hstatus, acceptedEndpoints_eq]
      cases hdecode : Json.decodeBytes SessionEndpoints.decodeAcceptance a.body with
      | ok e => exact .taken hstays hcomplete hstatus hdecode
      | error problem => exact .takenUnread hstays hcomplete hstatus hdecode
    · rw [if_neg (by simp), if_neg hstatus]
      exact .rejected hstays hcomplete hstatus

/-- What a reply says about a delegation is what it means, where answers are read as verdicts. -/
theorem verdict_iff_means {r : Reply} {v : Except ExecutorError SessionEndpoints} :
    Verdict r v ↔ Means Answer.verdict r v := by
  constructor
  · intro h
    -- each way to a verdict on an answer that stands is one case of `Answer.verdict`
    cases h with
    | @taken a e hstays hcomplete hstatus hdecode =>
      have hread : a.verdict = .ok e := by
        simp [Answer.verdict, hcomplete, hstatus, acceptedEndpoints_eq, hdecode, Except.toOption]
      exact hread ▸ .stands hstays
    | @takenUnread a problem hstays hcomplete hstatus hdecode =>
      have hread : a.verdict = .ok .none := by
        simp [Answer.verdict, hcomplete, hstatus, acceptedEndpoints_eq, hdecode, Except.toOption]
      exact hread ▸ .stands hstays
    | @rejected a hstays hcomplete hstatus =>
      have hread : a.verdict = .error (.rejected a.status) := by
        simp [Answer.verdict, hcomplete, hstatus]
      exact hread ▸ .stands hstays
    | @brokenOff a hstays hcomplete =>
      have hread : a.verdict = .error (.unreachable none) := by
        simp [Answer.verdict, hcomplete]
      exact hread ▸ .stands hstays
    -- the other replies are read alike on both sides
    | elsewhere hrefers => exact .elsewhere hrefers
    | refused => exact .refused
    | dropped => exact .dropped
  · intro h
    cases h with
    | stands hstays => exact verdict_of_stays hstays
    | elsewhere hrefers => exact .elsewhere hrefers
    | refused => exact .refused
    | dropped => exact .dropped

theorem scheme_ofDelegation (builds : Url) (d : Delegation) :
    (Outgoing.ofDelegation builds d).url.scheme = builds.scheme := by
  unfold Outgoing.ofDelegation Outgoing.make
  split <;> rfl

/-- **What is heard of a delegation.** It is sent, and sent on along a trail of references; what is
heard of it is what the reply to the last request means. -/
theorem submit_iff {builds : Url} (hweb : isWebScheme builds.scheme = true) (d : Delegation)
    (send : Outgoing → Reply) :
    ∃ x, Trail send followLimit (.ofDelegation builds d) (submit builds d send).1 x ∧
      ∀ v, (submit builds d send).2 = some v ↔
        ∃ z, (submit builds d send).1.getLast? = some z ∧ Verdict (send z) v := by
  have htrail := trail_of_exchange send (o := .ofDelegation builds d)
    (by rw [scheme_ofDelegation, hweb])
  refine ⟨_, htrail, fun v => ?_⟩
  simp only [verdict_iff_means]
  exact htrail.read_iff v

end BuildBroker.Executor
