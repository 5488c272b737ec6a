import BuildBroker.Proofs.Bits.Draining
import BuildBroker.Proofs.Coordinator.Offers

/-!
# What Uploads Are Told of Their Bits

The reader of the bits of a build polls them step by step, while other things happen. In every run he
finds poll for poll what was uploaded, and the upload is told what a reader who polls as often and
leaves would have told it.

Main statements:
- `Build.comes_of_moves`: how a change leaves the reader of some bits.
- `Coordinator.inStep_of_play`: what readers have found is in step with what was uploaded.
- `Coordinator.told_once`: what is found, and the one outcome that is told.
-/

namespace BuildBroker

open Rendezvous (Outcome)

namespace Build

variable {s : CoordinatorSettings} {b b' : Build} {y : BuildStep} {h : List BuildEvent} {t : Nat}

/-! ## §1 How a reader goes on -/

/-- How the reading of the bits under a ticket stands after a change, with the readings that are noted
at it. -/
inductive Comes (b b' : Build) (t : Nat) : Drain → List Reading → Prop where
  /-- The bits have just been taken. -/
  | taken {p : Payload} : b.reader? t = none → b'.bits.item? t = some p →
      Comes b b' t (.ofPayload p) []
  | same {r : Reader} : b.reader? t = some r → Comes b b' t r.drain []
  | polled {r : Reader} : b.reader? t = some r →
      Comes b b' t r.drain.poll.1 [.polled r.drain.poll.2.1]
  | left {r : Reader} : b.reader? t = some r → Comes b b' t r.drain.leave.1 [.left]

/-- Every change leaves a reader as he is, or lets him go on, or brings him the bits. -/
theorem comes_of_moves (hsound : b.bits.Sound) (hm : b.Moves s y b') {r' : Reader}
    (hr' : b'.reader? t = some r') : b.Comes b' t r'.drain (readings t (b.notes y)) := by
  have hlater := hm.later hsound
  have haside : b'.readers = b.readers → readings t (b.notes y) = [] →
      b.Comes b' t r'.drain (readings t (b.notes y)) := by
    intro hreaders hnotes
    rw [reader?, hreaders] at hr'
    rw [hnotes]
    exact .same hr'
  -- who goes on is noted, and nobody else
  have hread : ∀ {u : Nat} {r : Reader} {x : Reading} {d : Drain} {report : Option Outcome},
      b.reader? u = some r → b.notes y = [.reads u x] →
      b' = (b.setDrain u d).reportDrain u report →
      (b.reader? t = some r → b.Comes b' t d [x]) →
      b.Comes b' t r'.drain (readings t (b.notes y)) := by
    intro u r x d report hr hnotes hb' hcomes
    rw [hb', reader?_of_read] at hr'
    obtain ⟨r₀, hr₀, rfl⟩ := Option.map_eq_some_iff.mp hr'
    rw [hnotes, readings_reads]
    by_cases hu : u = t
    · subst hu
      rw [if_pos rfl, if_pos rfl]
      exact hcomes hr
    · rw [if_neg hu, if_neg hu]
      exact .same hr₀
  cases hm with
  | ask | turnDown | accept | finish =>
    exact haside (readers_setPhase b _) (b.readings_notes_of_aside t (by simp) (by simp))
  | start | claim | refuse | unprepared | answer | skipSession | keepSession | clash | settle
  | dropAsking | complete | offer | dropDelivering =>
    exact haside rfl (b.readings_notes_of_aside t (by simp) (by simp))
  | log hlog =>
    refine haside rfl (b.readings_notes_of_aside t ?_ ?_)
    · rintro t rfl
      cases hlog
    · rintro t rfl
      cases hlog
  | bits hbits =>
    cases hbits with
    | deliveryTurn | fetch => exact haside rfl (b.readings_notes_of_aside t (by simp) (by simp))
    | dropFetch hstep | markDelivery hstep | markFetch hstep =>
      obtain ⟨bits, -, rfl⟩ := Option.map_eq_some_iff.mp hstep
      exact haside rfl (b.readings_notes_of_aside t (by simp) (by simp))
    | @fetchTurn now f _ hturn =>
      have hnotes : readings t (b.notes (.fetchTurn now f)) = [] := rfl
      rcases fetchTurn?_cases hturn hsound with ⟨hreaders, -⟩ | ⟨u, p, -, hitem, hreaders, -⟩
      · exact haside hreaders hnotes
      · rw [hnotes]
        rw [reader?, hreaders, List.find?_append] at hr'
        cases hold : b.reader? t with
        | some r =>
          have hfound : b.readers.find? (fun r => decide (r.ticket = t)) = some r := hold
          obtain rfl : r = r' := by simpa [hfound] using hr'
          exact .same hold
        | none =>
          have hnone : b.readers.find? (fun r => decide (r.ticket = t)) = none := hold
          rw [hnone, Option.none_or, List.find?_singleton] at hr'
          split at hr'
          · rename_i hu
            obtain rfl : u = t := by simpa using hu
            cases hr'
            exact .taken hold (hlater.items u p hitem)
          · cases hr'
    | poll u =>
      cases hr : b.reader? u with
      | none =>
        obtain ⟨⟨hsame, hnotes⟩, -⟩ := bits_of_nobody hr
        exact haside (congrArg Build.readers hsame) (congrArg (readings t) hnotes)
      | some r =>
        obtain ⟨hpoll, hnotes⟩ := pollBits_of_reader hr
        exact hread hr hnotes hpoll .polled
    | leave u =>
      cases hr : b.reader? u with
      | none =>
        obtain ⟨-, hsame, hnotes⟩ := bits_of_nobody hr
        exact haside (congrArg Build.readers hsame) (congrArg (readings t) hnotes)
      | some r =>
        obtain ⟨hleave, hnotes⟩ := leaveBits_of_reader hr
        exact hread hr hnotes hleave .left

/-! ## §2 Readers in step with what was uploaded -/

/-- What readers have found is in step with the bodies that were uploaded. -/
def InStep (b : Build) (h : List BuildEvent) : Prop :=
  ∀ t r p, b.reader? t = some r → b.bits.item? t = some p →
    Drain.InStep p.body (readings t h) r.drain

/-- Every change of a build keeps the invariant. -/
theorem InStep.of_moves (hi : b.InStep h) (hf : b.Followed h) (hsound : b.bits.Sound)
    (hm : b.Moves s y b') : b'.InStep (h ++ b.notes y) := by
  intro t r' p hr' hp
  have hcomes := comes_of_moves hsound hm hr'
  -- the bits of a reader have been uploaded before, and they are still the same
  have hbefore : ∀ {r}, b.reader? t = some r → Drain.InStep p.body (readings t h) r.drain := by
    intro r hr
    obtain ⟨p₀, hp₀, -⟩ := hf.reads t r hr
    have hlater := (hm.later hsound).items t p₀ hp₀
    obtain rfl : p₀ = p := Option.some.inj (hlater.symm.trans hp)
    exact hi t r p₀ hr hp₀
  rw [readings_append]
  generalize r'.drain = d, readings t (b.notes y) = rs at hcomes ⊢
  cases hcomes with
  | taken hnone hp' =>
    rw [hf.unread t hnone, Option.some.inj (hp.symm.trans hp')]
    exact .ofPayload _
  | same hr => simpa using hbefore hr
  | polled hr => exact (hbefore hr).poll
  | left hr => exact (hbefore hr).leave

end Build

namespace Coordinator

variable {settings : CoordinatorSettings} {steps : List CoordinatorStep} {c : Coordinator}
variable {id : BuildId} {b : Build} {t : Nat} {p : Payload}

theorem inStep_of_play (h : (Coordinator.mk settings .empty).play steps = some c)
    (hb : c.registry.find? id = some b) :
    b.InStep ((Coordinator.mk settings .empty).chronicle id steps) := by
  have hboth : b.Followed ((Coordinator.mk settings .empty).chronicle id steps) ∧
      b.InStep ((Coordinator.mk settings .empty).chronicle id steps) := by
    refine chronicle_induction (motive := fun b h => b.Followed h ∧ b.InStep h) ?_ ?_ h hb
    · intro now sub
      exact ⟨Build.followed_fresh _, fun t r p hr => by cases hr⟩
    · rintro b h y b' - hdelegated - ⟨hf, hi⟩ hm
      have hsound := hdelegated.single.sound
      exact ⟨hf.of_moves hsound hm, hi.of_moves hf hsound hm⟩
  exact hboth.2

/-! ## §3 What is told in a run -/

/-- Until he leaves, a reader finds what was uploaded, poll for poll. -/
theorem found_of_play (h : (Coordinator.mk settings .empty).play steps = some c)
    (hb : c.registry.find? id = some b) (hp : b.bits.item? t = some p) :
    ∃ n, untilLeft (readings t ((Coordinator.mk settings .empty).chronicle id steps)) =
      (List.range n).map fun k => .polled (p.body.pollAt k) := by
  cases hr : b.reader? t with
  | none =>
    -- nobody has found anything in bits that were not taken
    refine ⟨0, ?_⟩
    rw [(followed_of_play h hb).unread t hr]
    rfl
  | some r => exact ⟨_, (inStep_of_play h hb t r p hr hp).untilLeft_eq⟩

/-- What has been told of some bits is told for the rest of the run. -/
theorem outcome?_of_more (h : (Coordinator.mk settings .empty).play steps = some c)
    (hb : c.registry.find? id = some b) {o : Outcome} (ho : b.bits.outcome? t = some o)
    {more : List CoordinatorStep} {c' : Coordinator} (hmore : c.play more = some c') {b' : Build}
    (hb' : c'.registry.find? id = some b') : b'.bits.outcome? t = some o := by
  have hplay : (Coordinator.mk settings .empty).play (steps ++ more) = some c' :=
    Runs.run_append.mpr ⟨c, h, hmore⟩
  have hchronicle : (Coordinator.mk settings .empty).chronicle id (steps ++ more) =
      (Coordinator.mk settings .empty).chronicle id steps ++ c.chronicle id more :=
    Runs.seen_append h
  -- the readings that ended the bits come before those of the rest of the run
  rw [(followed_of_play h hb).told t] at ho
  rw [(followed_of_play hplay hb').told t, hchronicle, readings_append, ending?_append, ho,
    Option.some_or]

/-- The polls until the reader leaves decide what the upload is told, and it is told once they have
ended the bits or the reader has left. -/
theorem outcome?_of_play (h : (Coordinator.mk settings .empty).play steps = some c)
    (hb : c.registry.find? id = some b) {rs : List Reading} {n : Nat}
    (hrs : readings t ((Coordinator.mk settings .empty).chronicle id steps) = rs)
    (hn : untilLeft rs = (List.range n).map fun k => .polled (p.body.pollAt k)) :
    (b.bits.outcome? t =
      if p.body.isOver n = true ∨ .left ∈ rs then some (p.body.verdict n) else none) ∧
    ∀ o, b.bits.result? t = some (.drained o) →
      o = p.body.verdict n ∧ (p.body.isOver n = true ∨ .left ∈ rs) := by
  subst hrs
  have hf := followed_of_play h hb
  have hending := ending?_of_untilLeft hn
  refine ⟨(hf.told t).trans hending, ?_⟩
  intro o hres
  -- what the delivery returned is what the reader was told
  have hend := (hf.drained (delegated_of_play h hb).single.sound hres).2
  rw [hending] at hend
  split at hend
  · rename_i hover
    exact ⟨(Option.some.inj hend).symm, hover⟩
  · cases hend

/-- **One outcome for each body.** Whoever polls a body so many times and then leaves it finds what
the body has in its places, poll for poll, and the upload is told once: that the body was completed,
if the polls go past its last piece and no piece is a failure, and otherwise that it was
interrupted. It is told at the poll which comes to the first failure or to the end, or else when the
reader leaves, and polls after that change nothing. So it is in every run: what the reader of some
bits finds until he leaves is what was uploaded; the upload is told by then how these polls have
ended the bits, and not before they have or the reader has left; a delivery whose bits were taken
ends with this outcome and no other; and nothing that follows in the run changes it. -/
theorem told_one_outcome :
    (∀ (p : Payload) (n : Nat),
      (Drain.ofPayload p).use n =
        ((List.range n).map fun k => (p.body.pollAt k,
            if p.body.isOver (k + 1) && !p.body.isOver k then some (p.body.verdict n) else none),
          if p.body.isOver n then none else some .interrupted) ∧
      (Drain.ofPayload p).told n = [p.body.verdict n] ∧
      (p.body.verdict n = .completed ↔ p.body.items.length < n ∧ p.body.endless = false ∧
        ∀ reason, .failure reason ∉ p.body.items) ∧
      ∀ m, n ≤ m → p.body.isOver n = true →
        (Drain.ofPayload p).told m = (Drain.ofPayload p).told n) ∧
    ∀ (settings : CoordinatorSettings) (steps : List CoordinatorStep) (c : Coordinator)
      (id : BuildId) (b : Build) (t : Nat) (p : Payload),
      (Coordinator.mk settings .empty).play steps = some c → c.registry.find? id = some b →
      b.bits.item? t = some p →
      ∀ rs, readings t ((Coordinator.mk settings .empty).chronicle id steps) = rs →
        ∃ n, (untilLeft rs = (List.range n).map fun k => .polled (p.body.pollAt k)) ∧
          (b.bits.outcome? t =
            if p.body.isOver n = true ∨ .left ∈ rs then some (p.body.verdict n) else none) ∧
          (∀ o, b.bits.result? t = some (.drained o) →
            o = p.body.verdict n ∧ (p.body.isOver n = true ∨ .left ∈ rs)) ∧
          ∀ o more c' b', b.bits.outcome? t = some o → c.play more = some c' →
            c'.registry.find? id = some b' → b'.bits.outcome? t = some o := by
  constructor
  -- the reader by itself: an induction over the polls, in `use_eq_verdict`
  · intro p n
    exact ⟨Drain.use_eq_verdict p n, Drain.told_ofPayload p n, Body.verdict_eq_completed_iff,
      fun m hle hover => Drain.told_of_isOver hle hover⟩
  -- in a run: the readings of the delivery are polls, up to the moment the reader leaves
  · rintro settings steps c id b t p h hb hp rs rfl
    obtain ⟨n, hn⟩ := found_of_play h hb hp
    obtain ⟨houtcome, hresult⟩ := outcome?_of_play h hb rfl hn
    refine ⟨n, hn, houtcome, hresult, ?_⟩
    intro o more c' b' ho hmore hb'
    exact outcome?_of_more h hb ho hmore hb'

/-- A body that fails after its first piece and has another one then. -/
def brokenBody : Body :=
  ⟨[.chunk [1], .failure "reset", .chunk [2]], false⟩

/-- An upload of it is accepted, and a fetch reads it past the failure, to the end, and leaves. -/
def brokenUpload : List CoordinatorStep :=
  [.create ⟨7⟩ ⟨⟨2026, 1, 1⟩, 0, 0⟩ ⟨"image", "", "", .empty⟩,
    .build ⟨7⟩ (.upload ⟨none, brokenBody⟩), .build ⟨7⟩ (.uploadTurn 0 0),
    .build ⟨7⟩ (.uploadTurn 0 0), .build ⟨7⟩ (.answer 0 (.ok .none)),
    .build ⟨7⟩ (.uploadTurn 0 0), .build ⟨7⟩ (.uploadTurn 0 0), .build ⟨7⟩ (.uploadTurn 0 0),
    .build ⟨7⟩ (.uploadTurn 1 0), .build ⟨7⟩ (.fetch 2), .build ⟨7⟩ (.fetchTurn 2 0),
    .build ⟨7⟩ (.pollBits 0), .build ⟨7⟩ (.pollBits 0), .build ⟨7⟩ (.pollBits 0),
    .build ⟨7⟩ (.pollBits 0), .build ⟨7⟩ (.leaveBits 0)]

/-- The upload is told at the failure that the body was interrupted, and of the end no more. -/
theorem told_one_outcome_brokenUpload :
    (Drain.ofPayload ⟨none, brokenBody⟩).use 4 =
        ([(.chunk [1], none), (.failure "reset", some .interrupted), (.chunk [2], none),
          (.finished, none)], none) ∧
      ∃ c b, smallShop.play brokenUpload = some c ∧ c.registry.find? ⟨7⟩ = some b ∧
        b.bits.item? 0 = some ⟨none, brokenBody⟩ ∧ b.bits.outcome? 0 = some .interrupted := by
  obtain ⟨hreader, hruns⟩ := told_one_outcome
  refine ⟨(hreader ⟨none, brokenBody⟩ 4).1.trans (by decide), ?_⟩
  have hlast : ((smallShop.play brokenUpload).bind (·.registry.find? ⟨7⟩)).bind
      (·.bits.item? 0) = some ⟨none, brokenBody⟩ := by decide +kernel
  obtain ⟨b, hb', hitem⟩ := Option.bind_eq_some_iff.mp hlast
  obtain ⟨c, hc, hb⟩ := Option.bind_eq_some_iff.mp hb'
  have hrs : readings 0 (smallShop.chronicle ⟨7⟩ brokenUpload) =
      [.polled (.chunk [1]), .polled (.failure "reset"), .polled (.chunk [2]), .polled .finished,
        .left] := by decide +kernel
  obtain ⟨n, hn, houtcome, -, -⟩ := hruns _ _ c ⟨7⟩ b 0 _ hc hb hitem _ hrs
  have hlength : n = 4 := by simpa [untilLeft] using (congrArg List.length hn).symm
  subst hlength
  exact ⟨c, b, hc, hb, hitem, houtcome.trans (by decide)⟩

end Coordinator

end BuildBroker
