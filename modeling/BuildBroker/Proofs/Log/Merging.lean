import BuildBroker.Proofs.Log.Sockets

/-!
# What Producers Put into a Log

Several producers send at once, and each of their chunks is appended when it arrives. The log is a
merge of what they have sent: the chunks of each stand in it in their order, and there are no others.

Main statements:
- `IsMergeOf`: what a merge is.
- `Room.Merged.of_moves`: whatever happens, the log is a merge of what has been heard from the
  producers while it was open, each up to its last frame.
-/

namespace BuildBroker.Log

/-! ## §1 Merges -/

/-- A list is a merge of others: each of its elements belongs to one of them, and those that belong
to one are, in their order, that one. -/
def IsMergeOf (parts : Nat → List Bytes) (whole : List Bytes) : Prop :=
  ∃ labelled : List (Nat × Bytes), labelled.map Prod.snd = whole ∧
    ∀ n, (labelled.filter (·.1 = n)).map Prod.snd = parts n

theorem isMergeOf_nil : IsMergeOf (fun _ => []) [] :=
  ⟨[], rfl, fun _ => rfl⟩

/-- A merge goes on as one of its parts goes on. -/
theorem IsMergeOf.concat {parts parts' : Nat → List Bytes} {whole : List Bytes}
    (h : IsMergeOf parts whole) {n : Nat} {chunk : Bytes} (hself : parts' n = parts n ++ [chunk])
    (hothers : ∀ m, m ≠ n → parts' m = parts m) : IsMergeOf parts' (whole ++ [chunk]) := by
  obtain ⟨labelled, hwhole, hparts⟩ := h
  refine ⟨labelled ++ [(n, chunk)], by simp [hwhole], ?_⟩
  intro m
  rw [List.filter_append, List.map_append, hparts m]
  by_cases hmn : m = n
  · subst hmn
    simp [hself]
  · simp [Ne.symm hmn, hothers m hmn]

theorem IsMergeOf.congr {parts parts' : Nat → List Bytes} {whole : List Bytes}
    (h : IsMergeOf parts whole) (hsame : ∀ n, parts' n = parts n) : IsMergeOf parts' whole := by
  obtain rfl : parts' = parts := funext hsame
  exact h

namespace Room

/-! ## §2 The Log Is a Merge -/

/-- What a producer has put into the log; nothing if the socket is not that of a producer. -/
def part (r : Room) (register : List SocketEvent) (n : Nat) : List Bytes :=
  match r.ends n with
  | some (.producer _) => produced (heard n register)
  | _ => []

/-- The log is a merge of what the producers have sent, and while it is open the broker listens to a
producer up to its last frame. -/
structure Merged (r : Room) (register : List SocketEvent) : Prop where
  merge : IsMergeOf (r.part register) r.log.history
  listens : ∀ n p, r.ends n = some (.producer p) → r.log.closed = false →
    p.listening = !(heard n register).any isLast
  untouched : ∀ n, r.ends n = none → Untouched n register

namespace Merged

variable {r r' : Room} {register events : List SocketEvent} {n : Nat}

theorem empty : Room.empty.Merged [] :=
  ⟨isMergeOf_nil, fun _ _ h => by (cases h), fun _ _ _ he => by (cases he)⟩

/-- An open log was open before. -/
private theorem open_of_moves (hm : r.Moves events r') (hopen : r'.log.closed = false) :
    r.log.closed = false := by
  cases hclosed : r.log.closed with
  | false => rfl
  | true =>
    rw [((history_of_moves hm).2 hclosed).1] at hopen
    cases hopen

private theorem untouched_of_moves (h : r.Merged register) (hm : r.Moves events r') :
    ∀ n, r'.ends n = none → Untouched n (register ++ events) := by
  intro n hn e he
  obtain ⟨hnone, hnew⟩ := ends_of_moves hm hn
  rcases List.mem_append.mp he with hold | hevent
  · exact h.untouched n hnone e hold
  · exact hnew e hevent

/-- What is heard from a producer ends the listening exactly if it is the last frame. -/
private theorem listens_of_arrival (h : r.Merged register) {p p' : Producer} {f : Option Frame}
    {fs : List Frame} (he : r.ends n = some (.producer p)) (hopen : r.log.closed = false)
    (hlistens : p'.listening = (p.listening && !isLast f)) :
    p'.listening = !(heard n (register ++ [⟨n, .arrive f, fs, !r.log.closed⟩])).any isLast := by
  rw [hlistens, h.listens n p he hopen, heard_concat]
  simp [hopen]

private theorem listens_of_moves (h : r.Merged register) (hm : r.Moves events r') :
    ∀ n p, r'.ends n = some (.producer p) → r'.log.closed = false →
      p.listening = !(heard n (register ++ events)).any isLast := by
  intro m q hq hopen'
  have hopen := open_of_moves hm hopen'
  -- of a socket that the move does not concern nothing new is heard
  have haside : r.ends m = some (.producer q) → (∀ e ∈ events, e.socket ≠ m) →
      q.listening = !(heard m (register ++ events)).any isLast := by
    intro hq hne
    rw [heard_append_of_ne hne]
    exact h.listens m q hq hopen
  cases hm with
  | stays | close => exact haside hq (by simp)
  | @joinProducer n hn =>
    by_cases hmn : m = n
    · subst hmn
      obtain rfl : Producer.connected = q := by simpa using hq
      simp [(h.untouched m hn).heard, Producer.connected]
    · exact haside (by simpa [hmn] using hq) (by simp)
  | @joinFollower n hn =>
    by_cases hmn : m = n
    · subst hmn
      simp at hq
    · exact haside (by simpa [hmn] using hq) (by simp)
  | @produce n p p' f fs chunk he hlistening hopen hchunk hlistens =>
    by_cases hmn : m = n
    · subst hmn
      obtain rfl : p' = q := by simpa using hq
      exact h.listens_of_arrival he hopen hlistens
    · exact haside (by simpa [hmn] using hq) (by simpa using Ne.symm hmn)
  | @pass n p p' f fs he hnone hlistens =>
    by_cases hmn : m = n
    · subst hmn
      obtain rfl : p' = q := by simpa using hq
      exact h.listens_of_arrival he hopen (hlistens hopen)
    · exact haside (by simpa [hmn] using hq) (by simpa using Ne.symm hmn)
  | @ignore n _ _ _ he | @send n _ _ _ _ he =>
    refine haside hq ?_
    have hne : n ≠ m := by
      rintro rfl
      rw [he] at hq
      cases hq
    simpa using hne
  | @leave n | @lose n | @finish n =>
    by_cases hmn : m = n
    · subst hmn
      simp at hq
    · exact haside (by simpa [hmn] using hq) (by simpa using Ne.symm hmn)

theorem part_of_not_producer (h : ∀ p, r.ends n ≠ some (.producer p)) : r.part register n = [] := by
  unfold part
  split
  · rename_i p hp
    exact absurd hp (h p)
  · rfl

/-- What a move does not concern is as it was. -/
private theorem part_of_aside {m : Nat} (hsame : r'.ends m = r.ends m)
    (hne : ∀ e ∈ events, e.socket ≠ m) : r'.part (register ++ events) m = r.part register m := by
  unfold part
  rw [hsame, heard_append_of_ne hne]

/-- A move at a follower adds to no part. -/
private theorem part_of_follower {v v' : Follower} {m : Nat} (he : r.ends n = some (.follower v))
    (he' : r'.ends = Function.update r.ends n (some (.follower v')))
    (hevents : ∀ e ∈ events, e.socket = n) :
    r'.part (register ++ events) m = r.part register m := by
  by_cases hmn : m = n
  · subst hmn
    rw [part_of_not_producer (by simp [he']), part_of_not_producer (by simp [he])]
  · refine part_of_aside (by simp [he', hmn]) fun e hin heq => hmn ?_
    rw [← heq, hevents e hin]

/-- An arrival from which nothing is appended adds nothing to what a producer has sent. -/
private theorem produced_of_pass (h : r.Merged register) {p : Producer} {f : Option Frame}
    {fs : List Frame} (he : r.ends n = some (.producer p))
    (hnone : p.listening = true → r.log.closed = false → f.bind Frame.chunk? = none) :
    produced (heard n (register ++ [⟨n, .arrive f, fs, !r.log.closed⟩])) =
      produced (heard n register) := by
  rw [heard_concat]
  cases hopen : r.log.closed with
  | true => simp
  | false =>
    have hlast := h.listens n p he hopen
    cases hlistening : p.listening with
    | true =>
      have hafter := produced_concat (f := f) (by simpa [hlistening] using hlast)
      simpa [hnone hlistening hopen] using hafter
    | false =>
      -- the last frame has come before
      have hafter := produced_concat_of_last (f := f) (by simpa [hlistening] using hlast)
      simpa using hafter

private theorem merge_of_moves (h : r.Merged register) (hm : r.Moves events r') :
    IsMergeOf (r'.part (register ++ events)) r'.log.history := by
  cases hm with
  | stays => exact h.merge.congr fun m => part_of_aside rfl (by simp)
  | close hclose =>
    rw [Channel.history_close hclose]
    exact h.merge.congr fun m => part_of_aside rfl (by simp)
  | @joinProducer n hn =>
    refine h.merge.congr fun m => ?_
    by_cases hmn : m = n
    · subst hmn
      have hnothing : r.part register m = [] := part_of_not_producer (by simp [hn])
      rw [hnothing]
      simp [part, (h.untouched m hn).heard, produced]
    · exact part_of_aside (by simp [hmn]) (by simp)
  | @joinFollower n hn =>
    refine h.merge.congr fun m => ?_
    by_cases hmn : m = n
    · subst hmn
      rw [part_of_not_producer (by simp), part_of_not_producer (by simp [hn])]
    · exact part_of_aside (by simp [hmn]) (by simp)
  | @produce n p p' f fs chunk he hlistening hopen hchunk hlistens =>
    have hhistory : (r.log.append chunk).1.history = r.log.history ++ [chunk] := by
      simp [Channel.append, hopen]
    rw [hhistory]
    refine h.merge.concat (n := n) ?_ fun m hmn =>
      part_of_aside (by simp [hmn]) (by simpa using Ne.symm hmn)
    -- the broker listens, so this is not after the last frame
    have hnone : (heard n register).any isLast = false := by
      simpa [hlistening] using h.listens n p he hopen
    have hafter := produced_concat (f := f) hnone
    rw [hchunk] at hafter
    simp [part, he, heard_concat, hopen, hafter]
  | @pass n p p' f fs he hnone hlistens =>
    refine h.merge.congr fun m => ?_
    by_cases hmn : m = n
    · subst hmn
      simp [part, he, h.produced_of_pass he hnone]
    · exact part_of_aside (by simp [hmn]) (by simpa using Ne.symm hmn)
  | @ignore n v _ _ he =>
    exact h.merge.congr fun m => part_of_follower he (by rw [← he]; simp) (by simp)
  | @send n v _ _ _ he =>
    rw [Channel.history_receive]
    exact h.merge.congr fun m => part_of_follower he (by rw [← he]; simp) (by simp)
  | @leave n v _ _ he => exact h.merge.congr fun m => part_of_follower he rfl (by simp)
  | @lose n v _ _ _ he =>
    have hhistory := Channel.history_receive r.log v.observer (some 1)
    exact hhistory.symm ▸ h.merge.congr fun m => part_of_follower he rfl (by simp)
  | @finish n v _ he =>
    rw [Channel.history_receive]
    exact h.merge.congr fun m => part_of_follower he rfl (by simp)

/-- Every change keeps the invariant. -/
theorem of_moves (h : r.Merged register) (hm : r.Moves events r') :
    r'.Merged (register ++ events) :=
  ⟨h.merge_of_moves hm, h.listens_of_moves hm, h.untouched_of_moves hm⟩

end Merged

end Room

end BuildBroker.Log
