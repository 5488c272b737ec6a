import BuildBroker.Bits.Body

/-!
# How Bits Are Read

Whoever reads uploaded bits polls them some number of times, goes on polling after a failure or after
the end if he likes, and leaves them at some time or never.

Main statements:
- `ending?`: what a list of readings tells the upload; the first reading that ends the bits decides.
- `Drain.Reads`: what is left of a body, and whether the upload has been told, after some readings.
- `Drain.Reads.poll`, `Drain.Reads.leave`: every further reading keeps this.
- `Drain.Reads.whole`: bits that were read to their end have been read piece by piece, with no failure
  among them.
-/

namespace BuildBroker

open Rendezvous (Outcome)

/-- What a reader of bits does, with what he finds. -/
inductive Reading where
  | polled (p : Poll)
  | left
deriving DecidableEq, Repr

namespace Reading

/-- How a reading ends the bits, if it does. -/
def ending? : Reading → Option Outcome
  | .polled .finished => some .completed
  | .polled (.failure _) | .left => some .interrupted
  | .polled .pending | .polled (.chunk _) => none

/-- The piece of the body that a reading has found. -/
def piece? : Reading → Option BodyItem
  | .polled (.chunk b) => some (.chunk b)
  | .polled (.failure reason) => some (.failure reason)
  | .polled .pending | .polled .finished | .left => none

end Reading

/-- What the upload is told of some readings: the first one that ends the bits decides. -/
def ending? (rs : List Reading) : Option Outcome :=
  rs.findSome? Reading.ending?

/-- The pieces that readings have found. -/
def piecesRead (rs : List Reading) : List BodyItem :=
  rs.filterMap Reading.piece?

/-- The pieces of a body that a reader can find. -/
def Body.pieces (body : Body) : List BodyItem :=
  body.items.filter (· ≠ .pending)

theorem ending?_concat (rs : List Reading) (x : Reading) :
    ending? (rs ++ [x]) = (ending? rs).or x.ending? := by
  simp [ending?, List.findSome?_append]

theorem piecesRead_concat (rs : List Reading) (x : Reading) :
    piecesRead (rs ++ [x]) = piecesRead rs ++ x.piece?.toList := by
  simp only [piecesRead, List.filterMap_append, List.filterMap_cons, List.filterMap_nil]
  cases x.piece? <;> rfl

/-- As long as nothing has ended the bits, no failure has been found. -/
theorem not_failure_of_open {rs : List Reading} (h : ending? rs = none) (reason : String) :
    .failure reason ∉ piecesRead rs := by
  intro hmem
  obtain ⟨x, hx, hpiece⟩ := List.mem_filterMap.mp hmem
  have hopen : x.ending? = none := List.findSome?_eq_none_iff.mp h x hx
  -- a reading that finds a failure ends the bits
  unfold Reading.piece? at hpiece
  split at hpiece
  all_goals cases hpiece
  cases hopen

namespace Drain

/-- A poll takes from the body the piece that it finds, and finds the end only where nothing is
left. -/
theorem poll_body (d : Drain) :
    d.body.pieces = (Reading.polled d.poll.2.1).piece?.toList ++ d.poll.1.body.pieces ∧
      d.poll.1.body.endless = d.body.endless ∧
      (d.body.items = [] → d.poll.1.body = d.body) ∧
      (d.poll.2.1 = .finished → d.body.items = [] ∧ d.body.endless = false) := by
  obtain ⟨⟨items, endless⟩, armed⟩ := d
  cases items with
  | nil => cases endless <;> simp [poll, Body.poll, Body.pieces, Reading.piece?]
  | cons item rest => cases item <;> simp [poll, Body.poll, Body.pieces, Reading.piece?]

/-- The upload is told of a poll that ends the bits, unless it has been told before. -/
theorem poll_report (d : Drain) :
    d.poll.2.2 = (if d.armed then (Reading.polled d.poll.2.1).ending? else none) ∧
      d.poll.1.armed = (d.armed && (Reading.polled d.poll.2.1).ending?.isNone) := by
  have hreport : ∀ p, reportOf d.armed p =
      if d.armed then (Reading.polled p).ending? else none := by
    intro p
    cases p <;> simp [reportOf, Reading.ending?]
  refine ⟨hreport _, ?_⟩
  simp only [poll, hreport]
  cases d.armed <;> simp

/-- What is left of a body, and whether the upload has still to be told, after some readings. -/
structure Reads (body : Body) (rs : List Reading) (d : Drain) : Prop where
  pieces : body.pieces = piecesRead rs ++ d.body.pieces
  endless : d.body.endless = body.endless
  armed : d.armed = (ending? rs).isNone
  /-- Who has found the end has read everything. -/
  exhausted : .polled .finished ∈ rs → d.body.items = [] ∧ body.endless = false
  unfailing : ending? rs = some .completed → ∀ reason, .failure reason ∉ piecesRead rs

namespace Reads

variable {body : Body} {rs : List Reading} {d : Drain}

theorem ofPayload (p : Payload) : Reads p.body [] (.ofPayload p) :=
  ⟨rfl, rfl, rfl, by simp, by simp [ending?]⟩

/-- Only the end that is found before any failure completes the reading. -/
private theorem finished_of_completed (h : ending? rs = some .completed) :
    .polled .finished ∈ rs := by
  obtain ⟨x, hx, hend⟩ := List.exists_of_findSome?_eq_some h
  unfold Reading.ending? at hend
  split at hend
  · exact hx
  all_goals cases hend

theorem poll (h : Reads body rs d) : Reads body (rs ++ [.polled d.poll.2.1]) d.poll.1 := by
  obtain ⟨hpieces, hendless, hkept, hfinished⟩ := d.poll_body
  refine ⟨?_, hendless.trans h.endless, ?_, ?_, ?_⟩
  · rw [piecesRead_concat, List.append_assoc, ← hpieces]
    exact h.pieces
  · rw [d.poll_report.2, h.armed, ending?_concat]
    cases ending? rs <;> simp
  · intro hmem
    -- whether the end was found before or just now, nothing was left then
    have hitems : d.body.items = [] ∧ body.endless = false := by
      rcases List.mem_append.mp hmem with hold | hnew
      · exact h.exhausted hold
      · obtain ⟨hitems, hends⟩ := hfinished (by simpa using (List.mem_singleton.mp hnew).symm)
        exact ⟨hitems, h.endless ▸ hends⟩
    rw [hkept hitems.1]
    exact hitems
  · intro hend reason
    have hnone : Reading.piece? (.polled d.poll.2.1) = none := by
      rw [ending?_concat] at hend
      cases hopen : ending? rs with
      | some o =>
        -- the bits have been completed before, so there is nothing left to be found
        have hcompleted : ending? rs = some .completed := by
          rw [hopen] at hend ⊢
          simpa using hend
        have hitems := (h.exhausted (finished_of_completed hcompleted)).1
        have hnothing : d.body.pieces = [] := by simp [Body.pieces, hitems]
        rw [hnothing] at hpieces
        exact Option.toList_eq_nil_iff.mp (List.append_eq_nil_iff.mp hpieces.symm).1
      | none =>
        rw [hopen, Option.none_or] at hend
        have hp : d.poll.2.1 = .finished := by
          cases hp : d.poll.2.1 <;> simp [hp, Reading.ending?] at hend ⊢
        rw [hp]
        rfl
    rw [piecesRead_concat, hnone, Option.toList_none, List.append_nil]
    -- the poll has found no piece, so it depends on the readings before it
    rw [ending?_concat] at hend
    cases hopen : ending? rs with
    | none => exact not_failure_of_open hopen reason
    | some o =>
      rw [hopen] at hend
      exact h.unfailing (by rw [hopen]; simpa using hend) reason

theorem leave (h : Reads body rs d) : Reads body (rs ++ [.left]) d.leave.1 := by
  refine ⟨?_, h.endless, ?_, ?_, ?_⟩
  · rw [piecesRead_concat]
    simpa [Reading.piece?, Drain.leave] using h.pieces
  · rw [ending?_concat]
    cases ending? rs <;> rfl
  · intro hmem
    exact h.exhausted (by simpa using hmem)
  · intro hend reason
    have hcompleted : ending? rs = some .completed := by
      rw [ending?_concat] at hend
      cases hopen : ending? rs with
      | none => simp [hopen, Reading.ending?] at hend
      | some o => simpa [hopen] using hend
    rw [piecesRead_concat]
    simpa [Reading.piece?] using h.unfailing hcompleted reason

/-- Bits that were read to their end have been read as they are, and there is no failure among
them. -/
theorem whole (h : Reads body rs d) (hend : ending? rs = some .completed) :
    piecesRead rs = body.pieces ∧ (∀ reason, .failure reason ∉ body.items) ∧
      body.endless = false := by
  obtain ⟨hitems, hends⟩ := h.exhausted (finished_of_completed hend)
  have hpieces : body.pieces = piecesRead rs := by
    rw [h.pieces]
    simp [Body.pieces, hitems]
  refine ⟨hpieces.symm, ?_, hends⟩
  intro reason hmem
  have hpiece : .failure reason ∈ body.pieces := List.mem_filter.mpr ⟨hmem, by simp⟩
  exact h.unfailing hend reason (hpieces ▸ hpiece)

end Reads

end Drain

end BuildBroker
