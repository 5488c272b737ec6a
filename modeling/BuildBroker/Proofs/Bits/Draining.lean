import BuildBroker.Proofs.Bits.Reading

/-!
# Bits That Are Polled and Left

A reader of uploaded bits polls them some number of times, past a failure or the end if he likes, and
then leaves them. What he finds is settled by the body, poll for poll, and so is what the upload is
told: it is told once, at the first failure or at the end, whichever he comes to first, and when he
leaves if he has come to neither.

Main statements:
- `Body.pollAt`, `Body.verdict`: what each poll finds, and how the bits have ended after some polls.
- `Drain.poll_standing`: one poll of a body that has been polled some number of times.
- `Drain.use_eq_verdict`, `Drain.told_ofPayload`: what a reader finds and what the upload is told.
- `ending?_of_untilLeft`: the same as a property of the readings alone.
-/

namespace BuildBroker

open Rendezvous (Outcome)

/-! ## §1 What a body has at each poll -/

/-- What a poll finds that comes to a piece. -/
def BodyItem.toPoll : BodyItem → Poll
  | .pending => .pending
  | .chunk b => .chunk b
  | .failure reason => .failure reason

def BodyItem.isFailure : BodyItem → Bool
  | .failure _ => true
  | .pending | .chunk _ => false

namespace Body

variable {body : Body} {k n : Nat}

/-- What the poll of a number finds: the piece in its place or, after the last one, the end. -/
def pollAt (body : Body) (k : Nat) : Poll :=
  match body.items[k]? with
  | some x => x.toPoll
  | none => if body.endless then .pending else .finished

/-- One of so many polls has gone past the last piece and found the end. -/
def isPast (body : Body) (n : Nat) : Bool :=
  !body.endless && decide (body.items.length < n)

/-- One of so many polls has found a failure. -/
def hasFailed (body : Body) (n : Nat) : Bool :=
  (body.items.take n).any BodyItem.isFailure

/-- One of so many polls has ended the bits. -/
def isOver (body : Body) (n : Nat) : Bool :=
  body.hasFailed n || body.isPast n

/-- How bits end that are polled so many times and then left: completed where the polls go past the
last piece and no piece is a failure. -/
def verdict (body : Body) (n : Nat) : Outcome :=
  if body.isPast n && !body.items.any BodyItem.isFailure then .completed else .interrupted

/-- What is left of a body after so many polls. -/
def after (body : Body) (n : Nat) : Body :=
  { body with items := body.items.drop n }

theorem poll_after (body : Body) (k : Nat) :
    (body.after k).poll = (body.after (k + 1), body.pollAt k) := by
  by_cases hk : k < body.items.length
  · -- a piece is next, and the poll takes it away
    have hitem : body.items[k]? = some body.items[k] := List.getElem?_eq_getElem hk
    simp only [after, pollAt, List.drop_eq_getElem_cons hk, hitem, poll]
    cases body.items[k] <;> rfl
  · -- nothing is left, and polls change nothing any more
    have hnone : body.items[k]? = none := List.getElem?_eq_none (by omega)
    have hdrop : ∀ m, k ≤ m → body.items.drop m = [] := by
      intro m hm
      exact List.drop_eq_nil_of_le (by omega)
    simp [after, pollAt, poll, hnone, hdrop]

theorem any_isFailure_iff {items : List BodyItem} :
    items.any BodyItem.isFailure = true ↔ ∃ reason, .failure reason ∈ items := by
  rw [List.any_eq_true]
  constructor
  · rintro ⟨x, hx, hfailure⟩
    cases x with
    | failure reason => exact ⟨reason, hx⟩
    | pending | chunk => cases hfailure
  · rintro ⟨reason, hmem⟩
    exact ⟨_, hmem, rfl⟩

theorem verdict_eq_completed_iff :
    body.verdict n = .completed ↔
      body.items.length < n ∧ body.endless = false ∧ ∀ reason, .failure reason ∉ body.items := by
  have hany : body.items.any BodyItem.isFailure = false ↔
      ∀ reason, .failure reason ∉ body.items := by
    rw [← Bool.not_eq_true, any_isFailure_iff, not_exists]
  rw [← hany]
  cases hends : body.endless <;> simp [verdict, isPast, hends]

/-! ## §2 When it is over -/

/-- Before the first poll nothing has ended the bits. -/
@[simp] theorem isOver_zero (body : Body) : body.isOver 0 = false := by
  simp [isOver, hasFailed, isPast]

theorem hasFailed_succ (body : Body) (k : Nat) :
    body.hasFailed (k + 1) = (body.hasFailed k || (body.items[k]?).any BodyItem.isFailure) := by
  rw [hasFailed, List.take_add_one, List.any_append]
  cases body.items[k]? <;> simp [hasFailed]

/-- Who has found a failure is reading a body with one. -/
theorem any_of_hasFailed (h : body.hasFailed k = true) :
    body.items.any BodyItem.isFailure = true := by
  obtain ⟨reason, hmem⟩ := any_isFailure_iff.mp h
  exact any_isFailure_iff.mpr ⟨reason, List.mem_of_mem_take hmem⟩

theorem hasFailed_mono (hle : k ≤ n) (h : body.hasFailed k = true) : body.hasFailed n = true := by
  obtain ⟨reason, hmem⟩ := any_isFailure_iff.mp h
  exact any_isFailure_iff.mpr ⟨reason, (List.take_prefix_take_left hle).subset hmem⟩

theorem isPast_mono (hle : k ≤ n) (h : body.isPast k = true) : body.isPast n = true := by
  simp only [isPast, Bool.and_eq_true, decide_eq_true_eq] at h ⊢
  exact ⟨h.1, by omega⟩

/-- Bits that are over stay so, however often they are polled again. -/
theorem isOver_mono (hle : k ≤ n) (h : body.isOver k = true) : body.isOver n = true := by
  simp only [isOver, Bool.or_eq_true] at h ⊢
  exact h.imp (hasFailed_mono hle) (isPast_mono hle)

/-- How bits have ended is not changed by further polls. -/
theorem verdict_of_isOver (hle : k ≤ n) (h : body.isOver k = true) :
    body.verdict n = body.verdict k := by
  simp only [isOver, Bool.or_eq_true] at h
  rcases h with hfailed | hpast
  · simp [verdict, any_of_hasFailed hfailed]
  · simp [verdict, hpast, isPast_mono hle hpast]

theorem verdict_of_open (h : body.isOver n = false) : body.verdict n = .interrupted := by
  simp only [isOver, Bool.or_eq_false_iff] at h
  simp [verdict, h.2]

/-- As long as the bits are not over, the next poll ends them exactly if they are over after it. -/
theorem ending?_pollAt (h : body.isOver k = false) :
    (Reading.polled (body.pollAt k)).ending? =
      if body.isOver (k + 1) then some (body.verdict (k + 1)) else none := by
  simp only [isOver, Bool.or_eq_false_iff] at h
  obtain ⟨hfailed, hpast⟩ := h
  cases hitem : body.items[k]? with
  | some x =>
    -- a piece ends the bits if it is a failure
    have hlt : k < body.items.length := (List.getElem?_eq_some_iff.mp hitem).1
    have hopen : body.isPast (k + 1) = false := by
      simp only [isPast, Bool.and_eq_false_iff, decide_eq_false_iff_not]
      exact .inr (by omega)
    cases x <;> simp [pollAt, hitem, BodyItem.toPoll, Reading.ending?, isOver, verdict, hopen,
      hasFailed_succ, hfailed, BodyItem.isFailure]
  | none =>
    -- all pieces have been found, so none of them is a failure
    have hlength : body.items.length ≤ k := List.getElem?_eq_none_iff.mp hitem
    have hnone : body.items.any BodyItem.isFailure = false := by
      rwa [hasFailed, List.take_of_length_le hlength] at hfailed
    cases hends : body.endless with
    | true => simp [pollAt, hitem, hends, Reading.ending?, isOver, hasFailed_succ, hfailed, isPast]
    | false =>
      have hover : body.isPast (k + 1) = true := by
        simp [isPast, hends, Nat.lt_succ_of_le hlength]
      simp [pollAt, hitem, hends, Reading.ending?, isOver, verdict, hover, hnone]

end Body

theorem ending?_append (rs xs : List Reading) :
    ending? (rs ++ xs) = (ending? rs).or (ending? xs) :=
  List.findSome?_append

theorem ending?_cons (x : Reading) (rs : List Reading) :
    ending? (x :: rs) = x.ending?.or (ending? rs) := by
  cases hx : x.ending? <;> simp [ending?, hx]

/-- What an upload is told of polls alone: how they have ended the bits, if they have. -/
theorem ending?_polls (body : Body) (n : Nat) :
    ending? ((List.range n).map fun k => .polled (body.pollAt k)) =
      if body.isOver n then some (body.verdict n) else none := by
  induction n with
  | zero => simp [ending?]
  | succ n ih =>
    -- the polls before decide if they have ended the bits, and the last one otherwise
    rw [List.range_succ, List.map_append, List.map_singleton, ending?_concat, ih]
    cases hover : body.isOver n with
    | true =>
      simp [body.isOver_mono n.le_succ hover, body.verdict_of_isOver n.le_succ hover]
    | false => simpa using body.ending?_pollAt hover

namespace Drain

/-! ## §3 A reader who polls and leaves -/

/-- The reading of a body that has been polled so many times. -/
def standing (body : Body) (k : Nat) : Drain :=
  ⟨body.after k, !body.isOver k⟩

/-- What the poll of a number tells the upload: how the bits end, if they end with it. -/
def reportAt (body : Body) (k : Nat) : Option Outcome :=
  if body.isOver (k + 1) && !body.isOver k then some (body.verdict (k + 1)) else none

theorem standing_zero (p : Payload) : standing p.body 0 = .ofPayload p := by
  simp [standing, ofPayload, Body.after]

/-- One poll finds what the body has in its place, and the upload is told if the bits end with it. -/
theorem poll_standing (body : Body) (k : Nat) :
    (standing body k).poll = (standing body (k + 1), body.pollAt k, reportAt body k) := by
  have hbody : (standing body k).poll.1.body = body.after (k + 1) :=
    congrArg Prod.fst (body.poll_after k)
  have hpoll : (standing body k).poll.2.1 = body.pollAt k :=
    congrArg Prod.snd (body.poll_after k)
  obtain ⟨hreport, harmed⟩ := (standing body k).poll_report
  rw [hpoll] at hreport harmed
  -- the upload is told at this poll, and at none after it, if the bits were open and are so no more
  have htold : (standing body k).poll.2.2 = reportAt body k ∧
      (standing body k).poll.1.armed = !body.isOver (k + 1) := by
    rw [hreport, harmed]
    cases hover : body.isOver k with
    | true => simp [standing, reportAt, hover, body.isOver_mono k.le_succ hover]
    | false =>
      rw [body.ending?_pollAt hover]
      cases hnext : body.isOver (k + 1) <;> simp [standing, reportAt, hover, hnext]
  refine Prod.ext ?_ (Prod.ext hpoll htold.1)
  show (standing body k).poll.1 = ⟨body.after (k + 1), !body.isOver (k + 1)⟩
  rw [← hbody, ← htold.2]

/-- Leaving tells the upload that the bits were interrupted, unless it has been told before. -/
theorem leave_standing (body : Body) (k : Nat) :
    (standing body k).leave.2 = if body.isOver k then none else some .interrupted := by
  cases hover : body.isOver k <;> simp [leave, standing, hover]

/-- What a reader does who polls so many times and then leaves: what each poll finds and tells the
upload, and what leaving tells it. -/
def use (d : Drain) : Nat → List (Poll × Option Outcome) × Option Outcome
  | 0 => ([], d.leave.2)
  | n + 1 => (d.poll.2 :: (d.poll.1.use n).1, (d.poll.1.use n).2)

/-- All that the upload is told of it. -/
def told (d : Drain) (n : Nat) : List Outcome :=
  (d.use n).1.filterMap (·.2) ++ (d.use n).2.toList

theorem use_standing (body : Body) (k n : Nat) :
    (standing body k).use n =
      ((List.range' k n).map fun i => (body.pollAt i, reportAt body i),
        if body.isOver (k + n) then none else some .interrupted) := by
  induction n generalizing k with
  | zero =>
    rw [use, leave_standing]
    rfl
  | succ n ih =>
    -- after one poll the reader goes on from the next place
    have hcount : k + 1 + n = k + (n + 1) := by omega
    rw [use, poll_standing, ih, List.range'_succ, List.map_cons, hcount]

/-- A reader finds what the body has in its places, poll for poll, and the upload is told at the poll
with which the bits end, or at last when the reader leaves. -/
theorem use_ofPayload (p : Payload) (n : Nat) :
    (ofPayload p).use n =
      ((List.range n).map fun k => (p.body.pollAt k, reportAt p.body k),
        if p.body.isOver n then none else some .interrupted) := by
  rw [← standing_zero, use_standing, Nat.zero_add, List.range_eq_range']

/-- The same in terms of how the bits have ended when the reader leaves. -/
theorem use_eq_verdict (p : Payload) (n : Nat) :
    (ofPayload p).use n =
      ((List.range n).map fun k => (p.body.pollAt k,
          if p.body.isOver (k + 1) && !p.body.isOver k then some (p.body.verdict n) else none),
        if p.body.isOver n then none else some .interrupted) := by
  rw [use_ofPayload, Prod.mk.injEq]
  refine ⟨List.map_congr_left fun k hk => ?_, rfl⟩
  have hlt : k < n := List.mem_range.mp hk
  -- the polls that follow the one which ends the bits change nothing about how they have ended
  cases hover : p.body.isOver (k + 1) with
  | true => rw [reportAt, hover, p.body.verdict_of_isOver hlt hover]
  | false => simp [reportAt, hover]

/-- What the upload is told of polls alone. -/
theorem reports_polls (body : Body) (n : Nat) :
    (List.range n).filterMap (reportAt body) =
      if body.isOver n then [body.verdict n] else [] := by
  induction n with
  | zero => simp
  | succ n ih =>
    rw [List.range_succ, List.filterMap_append, ih]
    cases hover : body.isOver n with
    | true =>
      simp [reportAt, hover, body.isOver_mono n.le_succ hover,
        body.verdict_of_isOver n.le_succ hover]
    | false => cases hnext : body.isOver (n + 1) <;> simp [reportAt, hover, hnext]

/-- The upload is told once how the bits have ended. -/
theorem told_ofPayload (p : Payload) (n : Nat) : (ofPayload p).told n = [p.body.verdict n] := by
  have hreports : ((List.range n).map fun k => (p.body.pollAt k, reportAt p.body k)).filterMap
      (·.2) = (List.range n).filterMap (reportAt p.body) := by
    rw [List.filterMap_map]
    rfl
  rw [told, use_ofPayload, hreports, reports_polls]
  cases hover : p.body.isOver n with
  | true => simp
  | false => simp [p.body.verdict_of_open hover]

/-- Polling again does not change what the upload is told, nor is it told again. -/
theorem told_of_isOver {p : Payload} {n m : Nat} (hle : n ≤ m) (hover : p.body.isOver n = true) :
    (ofPayload p).told m = (ofPayload p).told n := by
  rw [told_ofPayload, told_ofPayload, p.body.verdict_of_isOver hle hover]

end Drain

/-! ## §4 Readings in step with a body -/

/-- What a reading has found, if it was a poll. -/
def Reading.poll? : Reading → Option Poll
  | .polled p => some p
  | .left => none

/-- What the polls among some readings have found. -/
def pollsFound (rs : List Reading) : List Poll :=
  rs.filterMap Reading.poll?

/-- The readings before the reader has left. -/
def untilLeft (rs : List Reading) : List Reading :=
  rs.takeWhile (· ≠ .left)

theorem pollsFound_polled (rs : List Reading) (p : Poll) :
    pollsFound (rs ++ [.polled p]) = pollsFound rs ++ [p] := by
  simp [pollsFound, Reading.poll?]

theorem pollsFound_left (rs : List Reading) : pollsFound (rs ++ [.left]) = pollsFound rs := by
  simp [pollsFound, Reading.poll?]

/-- Before the reader has left there are only polls. -/
theorem untilLeft_eq_map (rs : List Reading) :
    untilLeft rs = (pollsFound (untilLeft rs)).map .polled := by
  unfold untilLeft
  induction rs with
  | nil => rfl
  | cons x rs ih =>
    cases x with
    | left => simp [pollsFound]
    | polled p => simpa [pollsFound, Reading.poll?] using ih

/-- The polls among some readings have found what a body has in its places, and the rest of it is
left. -/
structure Drain.InStep (body : Body) (rs : List Reading) (d : Drain) : Prop where
  found : pollsFound rs = (List.range (pollsFound rs).length).map body.pollAt
  rest : d.body = body.after (pollsFound rs).length

namespace Drain.InStep

variable {body : Body} {rs : List Reading} {d : Drain}

theorem ofPayload (p : Payload) : InStep p.body [] (.ofPayload p) :=
  ⟨rfl, rfl⟩

theorem poll (h : InStep body rs d) : InStep body (rs ++ [.polled d.poll.2.1]) d.poll.1 := by
  have hpoll : d.body.poll = (body.after ((pollsFound rs).length + 1),
      body.pollAt (pollsFound rs).length) := by
    rw [h.rest, body.poll_after]
  refine ⟨?_, ?_⟩
  · have hfound : d.poll.2.1 = body.pollAt (pollsFound rs).length := congrArg Prod.snd hpoll
    rw [pollsFound_polled, List.length_append, List.length_singleton, List.range_succ,
      List.map_append, List.map_singleton, ← h.found, hfound]
  · rw [pollsFound_polled, List.length_append, List.length_singleton]
    exact congrArg Prod.fst hpoll

theorem leave (h : InStep body rs d) : InStep body (rs ++ [.left]) d.leave.1 := by
  refine ⟨?_, ?_⟩ <;> rw [pollsFound_left]
  · exact h.found
  · exact h.rest

/-- A reader finds what the body has in its places until he leaves. -/
theorem untilLeft_eq (h : InStep body rs d) :
    untilLeft rs = (List.range (untilLeft rs).length).map fun k => .polled (body.pollAt k) := by
  -- the polls until then are the first of all polls, which are in step
  have hprefix : pollsFound (untilLeft rs) <+: pollsFound rs :=
    (List.takeWhile_prefix _).filterMap _
  have hlength := congrArg List.length (untilLeft_eq_map rs)
  rw [List.length_map] at hlength
  have hle : (untilLeft rs).length ≤ (pollsFound rs).length := hlength ▸ hprefix.length_le
  have hfound : pollsFound (untilLeft rs) =
      (List.range (untilLeft rs).length).map body.pollAt := by
    rw [List.prefix_iff_eq_take.mp hprefix, ← hlength, h.found, ← List.map_take, List.take_range,
      Nat.min_eq_left hle]
  calc untilLeft rs
      = (pollsFound (untilLeft rs)).map .polled := untilLeft_eq_map rs
    _ = (List.range (untilLeft rs).length).map fun k => .polled (body.pollAt k) := by
        rw [hfound, List.map_map]
        rfl

end Drain.InStep

/-- Whoever leaves bits interrupts them, unless they were over before. -/
theorem ending?_eq_untilLeft (rs : List Reading) :
    ending? rs = (ending? (untilLeft rs)).or (if .left ∈ rs then some .interrupted else none) := by
  induction rs with
  | nil => rfl
  | cons x rs ih =>
    cases x with
    | left =>
      have huntil : untilLeft (.left :: rs) = [] := by simp [untilLeft]
      rw [huntil, ending?_cons, if_pos List.mem_cons_self]
      rfl
    | polled p =>
      have huntil : untilLeft (.polled p :: rs) = .polled p :: untilLeft rs := by simp [untilLeft]
      simp only [huntil, ending?_cons, Option.or_assoc, List.mem_cons, reduceCtorEq, false_or]
      rw [ih]

/-- What the upload is told of readings whose polls find what a body has in its places: how the polls
until the reader leaves have ended the bits, once they have or he has left. -/
theorem ending?_of_untilLeft {body : Body} {rs : List Reading} {n : Nat}
    (h : untilLeft rs = (List.range n).map fun k => .polled (body.pollAt k)) :
    ending? rs =
      if body.isOver n = true ∨ .left ∈ rs then some (body.verdict n) else none := by
  rw [ending?_eq_untilLeft, h, ending?_polls]
  cases hover : body.isOver n with
  | true => simp
  | false => simp [body.verdict_of_open hover]

end BuildBroker
