import BuildBroker.Proofs.Log.Sockets

/-!
# What Followers Are Sent of a Log

A follower is sent what its observer receives, chunk by chunk, and a close frame when nothing more
will come: because the log has ended, or because it has fallen behind.

Main statements:
- `Room.Told`: what a follower has been sent, by what its observer has received.
- `Room.Followed.of_moves`: this holds whatever happens.
- `Room.whole_of_moves`: a follower that is never cut off is to be sent the whole log.
- `Room.told_of_whole`: if it stays it is sent all of it, and then the close frame.
-/

namespace BuildBroker.Log

theorem Observer.fields_joining (history : List Bytes) (closed : Bool) (capacity : Nat)
    (reading : Bool) : (joining history closed capacity reading).reading = reading ∧
      (joining history closed capacity reading).capacity = capacity := by
  obtain ⟨queue, hqueue⟩ := replay_eq history ⟨capacity, [], [], reading, false⟩
  simp [joining, hqueue]

namespace Room

/-! ## §1 What Followers Are Told -/

/-- What a follower has been told, by what its observer has received: one frame of octets for each
chunk, and a close frame when nothing more will come. One that does not stay may miss the rest. The
observer of one that is still sent to reads, and its queue holds a backlog. -/
inductive Told (history : List Bytes) (o : Observer) (stays : Prop) : Bool → List Frame → Prop where
  | sending : o.reading = true → backlog ≤ o.capacity →
      Told history o stays true (o.taken.map .binary)
  | ended : o.queue = [] → o.live = false →
      Told history o stays false (o.taken.map .binary ++ [.close none])
  | left {chunks : List Bytes} : ¬stays → chunks <+: history →
      Told history o stays false (chunks.map .binary)

/-- Nobody but its own follower takes anything from an observer or stops it reading, and once it has
been cut off nobody sends it anything. -/
structure Undisturbed (o o' : Observer) : Prop where
  taken : o'.taken = o.taken
  reading : o'.reading = o.reading
  capacity : o'.capacity = o.capacity
  quiet : o.live = false → o'.queue = o.queue ∧ o'.live = false

namespace Undisturbed

theorem refl (o : Observer) : Undisturbed o o :=
  ⟨rfl, rfl, rfl, fun h => ⟨rfl, h⟩⟩

theorem offer (chunk : Bytes) (o : Observer) : Undisturbed o (o.offer chunk) := by
  cases hlive : o.live with
  | false =>
    rw [Observer.offer_of_not_live chunk hlive]
    exact .refl o
  | true =>
    have hlost : ¬(o.live = false) := by simp [hlive]
    -- a live observer is sent the chunk or cut off; neither takes anything from it
    cases hsend : o.send? chunk with
    | none =>
      have hcut : o.offer chunk = { o with live := false } := by
        simp [Observer.offer, hlive, hsend]
      rw [hcut]
      exact ⟨rfl, rfl, rfl, fun h => absurd h hlost⟩
    | some o' =>
      have hsent : o.offer chunk = { o with queue := o.queue ++ [chunk] } := by
        simp [Observer.offer, hlive, hsend, Observer.eq_of_send? hsend]
      rw [hsent]
      exact ⟨rfl, rfl, rfl, fun h => absurd h hlost⟩

theorem cutOff (o : Observer) : Undisturbed o o.cutOff :=
  ⟨rfl, rfl, rfl, fun _ => ⟨rfl, rfl⟩⟩

end Undisturbed

theorem Told.of_undisturbed {history history' : List Bytes} {o o' : Observer} {stays stays' : Prop}
    {sending : Bool} {fs : List Frame} (h : Told history o stays sending fs)
    (ho : Undisturbed o o') (hgrows : history <+: history') (hstays : stays' → stays) :
    Told history' o' stays' sending fs := by
  -- what was told is what was taken, and that stays; the history only grows
  cases h with
  | sending hreading hroom =>
    rw [← ho.taken]
    exact .sending (ho.reading.trans hreading) (ho.capacity ▸ hroom)
  | ended hqueue hlive =>
    obtain ⟨hsame, hcut⟩ := ho.quiet hlive
    rw [← ho.taken]
    exact .ended (hsame.trans hqueue) hcut
  | left hgone hbefore => exact .left (fun h => hgone (hstays h)) (hbefore.trans hgrows)

/-- What has been received is a beginning of the history. -/
theorem taken_prefix_history {r : Room} (hsound : r.log.Sound) {i : Nat} {o : Observer}
    (ho : r.log.observers[i]? = some o) : o.taken <+: r.log.history :=
  (List.prefix_append _ _).trans (hsound.follows o (List.mem_of_getElem? ho)).beginning

/-- Each follower has an observer of its own, and has been told what that has received. -/
structure Followed (r : Room) (register : List SocketEvent) : Prop where
  apart : ∀ n m v u, r.ends n = some (.follower v) → r.ends m = some (.follower u) →
    v.observer = u.observer → n = m
  told : ∀ n v, r.ends n = some (.follower v) → ∃ o, r.log.observers[v.observer]? = some o ∧
    Told r.log.history o (StaysOpen n register) v.sending (told n register)

namespace Followed

variable {r r' : Room} {register events : List SocketEvent} {n : Nat}

theorem empty : Room.empty.Followed [] :=
  ⟨fun _ _ _ _ h => by (cases h), fun _ _ h => by (cases h)⟩

/-- An observer whose follower does not move is not disturbed. -/
private theorem undisturbed_of_moves (hm : r.Moves events r') {i : Nat} {o : Observer}
    (ho : r.log.observers[i]? = some o)
    (hothers : ∀ n v, r.ends n = some (.follower v) → (∃ e ∈ events, e.socket = n) →
      v.observer ≠ i) : ∃ o', r'.log.observers[i]? = some o' ∧ Undisturbed o o' := by
  have hreceive : ∀ j, j ≠ i → (r.log.receive j (some 1)).1.observers[i]? = some o := by
    intro j hj
    unfold Channel.receive
    split
    · exact ho
    · simpa [hj] using ho
  -- a move may send to an observer, cut it off or let others join, but not take from it
  cases hm with
  | stays | joinProducer | pass | ignore => exact ⟨o, ho, .refl o⟩
  | close hclose =>
    unfold Channel.close? at hclose
    split at hclose
    · cases hclose
    · cases hclose
      exact ⟨o.cutOff, by simp [ho], .cutOff o⟩
  | joinFollower =>
    have hlt : i < r.log.observers.length := (List.getElem?_eq_some_iff.mp ho).1
    exact ⟨o, (List.getElem?_append_left hlt).trans ho, .refl o⟩
  | @produce _ _ _ _ _ chunk _ _ hopen =>
    exact ⟨o.offer chunk, by simp [Channel.append, hopen, ho], .offer chunk o⟩
  | leave he =>
    have hne := hothers _ _ he (by simp)
    exact ⟨o, by simpa [Channel.leave, hne] using ho, .refl o⟩
  | send he | finish he => exact ⟨o, hreceive _ (hothers _ _ he (by simp)), .refl o⟩
  | lose he =>
    have hne := hothers _ _ he (by simp)
    exact ⟨o, by simpa [Channel.leave, hne] using hreceive _ hne, .refl o⟩

/-- A follower that a move does not concern goes on as before. -/
private theorem told_of_aside (h : r.Followed register) (hm : r.Moves events r') {v : Follower}
    (he : r.ends n = some (.follower v)) (hne : ∀ e ∈ events, e.socket ≠ n) :
    ∃ o, r'.log.observers[v.observer]? = some o ∧
      Told r'.log.history o (StaysOpen n (register ++ events)) v.sending
        (Log.told n (register ++ events)) := by
  obtain ⟨o, ho, htold⟩ := h.told n v he
  have hothers : ∀ m u, r.ends m = some (.follower u) → (∃ e ∈ events, e.socket = m) →
      u.observer ≠ v.observer := by
    rintro m u hu ⟨e, hin, hsocket⟩ hsame
    -- no two followers have one observer
    exact hne e hin (hsocket.trans (h.apart m n u v hu he hsame))
  -- so its observer has not moved either
  obtain ⟨o', ho', hundisturbed⟩ := undisturbed_of_moves hm ho hothers
  refine ⟨o', ho', ?_⟩
  rw [told_append_of_ne hne]
  refine htold.of_undisturbed hundisturbed (history_of_moves hm).1 fun hstays e hin => ?_
  exact hstays e (List.mem_append_left _ hin)

/-- A follower was there before, with the same observer, or it is the one that has joined. It is as
it was if nothing has happened at its socket. -/
private theorem seat_of_moves (hm : r.Moves events r') {v : Follower}
    (he : r'.ends n = some (.follower v)) :
    (∃ v₀, r.ends n = some (.follower v₀) ∧ v₀.observer = v.observer ∧
        ((∀ e ∈ events, e.socket ≠ n) → v₀ = v)) ∨
      r.ends n = none ∧ v = ⟨r.log.observers.length, true⟩ ∧
        r'.log = (Follower.connect r.log).1 ∧ ∀ m, m ≠ n → r'.ends m = r.ends m := by
  have hold : r.ends n = some (.follower v) →
      ∃ v₀, r.ends n = some (.follower v₀) ∧ v₀.observer = v.observer ∧
        ((∀ e ∈ events, e.socket ≠ n) → v₀ = v) :=
    fun h => ⟨v, h, rfl, fun _ => rfl⟩
  -- where the ends have changed at another socket, this one is as it was
  have hupdate : ∀ {m : Nat} {x : SocketEnd},
      Function.update r.ends m (some x) n = some (.follower v) →
      r.ends n = some (.follower v) ∨ m = n ∧ x = .follower v := by
    intro m x h
    rw [Function.update_apply] at h
    split at h
    · rename_i hnm
      exact .inr ⟨hnm.symm, Option.some.inj h⟩
    · exact .inl h
  -- only joining seats a follower, and what moves a follower keeps its observer
  cases hm with
  | stays | close | ignore | send => exact .inl (hold he)
  | joinProducer | produce | pass =>
    rcases hupdate he with hsame | ⟨_, heq⟩
    · exact .inl (hold hsame)
    · cases heq
  | @joinFollower m hn =>
    rcases hupdate he with hsame | ⟨rfl, heq⟩
    · exact .inl (hold hsame)
    · cases heq
      exact .inr ⟨hn, rfl, rfl, fun k hk => by simp [hk]⟩
  | leave hv | lose hv | finish hv =>
    rcases hupdate he with hsame | ⟨rfl, heq⟩
    · exact .inl (hold hsame)
    · cases heq
      exact .inl ⟨_, hv, rfl, fun hne => absurd rfl (hne _ (List.mem_singleton_self _))⟩

private theorem apart_of_moves (h : r.Followed register) (hm : r.Moves events r') :
    ∀ n m v u, r'.ends n = some (.follower v) → r'.ends m = some (.follower u) →
      v.observer = u.observer → n = m := by
  -- the observer of a follower that was there before is not the one that has joined
  have hseated : ∀ {n v}, r.ends n = some (.follower v) → v.observer ≠ r.log.observers.length := by
    intro n v hv heq
    obtain ⟨o, ho, _⟩ := h.told n v hv
    have hlt := (List.getElem?_eq_some_iff.mp ho).1
    omega
  intro n m v u hv hu hsame
  rcases seat_of_moves hm hv with ⟨v₀, hv₀, hobserver, _⟩ | ⟨_, rfl, _, hothers⟩
  · rcases seat_of_moves hm hu with ⟨u₀, hu₀, hobserver', _⟩ | ⟨_, rfl, _⟩
    · exact h.apart n m v₀ u₀ hv₀ hu₀ (hobserver.trans (hsame.trans hobserver'.symm))
    · exact absurd (hobserver.trans hsame) (hseated hv₀)
  · rcases seat_of_moves hm hu with ⟨u₀, hu₀, hobserver', _⟩ | ⟨_⟩
    · exact absurd (hobserver'.trans hsame.symm) (hseated hu₀)
    · by_contra hnm
      -- both have joined, but only one socket is new
      rw [hothers m (Ne.symm hnm)] at hu
      exact hseated hu hsame.symm

/-- A follower that is still sent to has been told what its observer has received. -/
private theorem told_of_sending (h : r.Followed register) {v : Follower}
    (he : r.ends n = some (.follower v)) (hsending : v.sending = true) {o : Observer}
    (ho : r.log.observers[v.observer]? = some o) :
    Log.told n register = o.taken.map .binary ∧ o.reading = true ∧ backlog ≤ o.capacity := by
  obtain ⟨o', ho', htold⟩ := h.told n v he
  obtain rfl : o' = o := Option.some.inj (ho'.symm.trans ho)
  rw [hsending] at htold
  generalize hfs : Log.told n register = fs at htold
  cases htold with
  | sending hreading hroom => exact ⟨rfl, hreading, hroom⟩

/-- After its observer has received a chunk it has received one more. -/
private theorem observer_of_receive {ch : Channel} {i : Nat} {o : Observer}
    (ho : ch.observers[i]? = some o) :
    (ch.receive i (some 1)).1.observers[i]? = some (o.receive 1) := by
  have hlt : i < ch.observers.length := (List.getElem?_eq_some_iff.mp ho).1
  rw [receive_of_observer ho]
  exact List.getElem?_set_self hlt

/-- A follower that has just joined has been told nothing, and nothing has been received for it. -/
private theorem told_of_joining (huntouched : Untouched n register) (stays : Prop) :
    ∃ o, (Follower.connect r.log).1.observers[r.log.observers.length]? = some o ∧
      Told r.log.history o stays true (Log.told n register) := by
  obtain ⟨hreading, hcapacity⟩ := Observer.fields_joining r.log.history r.log.closed
    (r.log.history.length + backlog) true
  have hjoined : Told r.log.history _ stays true _ := .sending hreading (by omega)
  rw [Observer.taken_joining] at hjoined
  rw [huntouched.told]
  exact ⟨_, List.getElem?_concat_length, hjoined⟩

/-- A follower at whose socket something happens is told what its observer receives. -/
private theorem told_of_own (h : r.Followed register) (hsound : r.log.Sound)
    (hm : r.Moves events r') {v : Follower} (hv : r'.ends n = some (.follower v))
    (hown : ∃ e ∈ events, e.socket = n) :
    ∃ o, r'.log.observers[v.observer]? = some o ∧
      Told r'.log.history o (StaysOpen n (register ++ events)) v.sending
        (Log.told n (register ++ events)) := by
  -- a socket that is left is left for good
  have hgone : ∀ {e : SocketEvent}, e.socket = n → e.step.leaves = true →
      ¬StaysOpen n (register ++ [e]) := by
    intro e hsocket hleaves hstays
    rw [(staysOpen_concat.mp hstays).2 hsocket] at hleaves
    cases hleaves
  -- each move at this socket, with what it sends and what is received for it
  cases hm with
  | stays | close | joinProducer | joinFollower => simp at hown
  | @produce m | @pass m =>
    obtain rfl : m = n := by simpa using hown
    simp at hv
  | @ignore m v₀ f fs he hpongs =>
    obtain rfl : m = n := by simpa using hown
    obtain rfl : v₀ = v := by simpa using he.symm.trans hv
    obtain ⟨o, ho, htold⟩ := h.told m v₀ he
    refine ⟨o, ho, ?_⟩
    rw [told_concat, if_pos rfl, hpongs, List.append_nil]
    exact htold.of_undisturbed (.refl o) (List.prefix_refl _) fun h => (staysOpen_concat.mp h).1
  | @leave m v₀ f fs he hsending hlast hpongs =>
    obtain rfl : m = n := by simpa using hown
    obtain rfl : (⟨v₀.observer, false⟩ : Follower) = v := by simpa using hv
    obtain ⟨o, ho, _⟩ := h.told m v₀ he
    refine ⟨{ o with reading := false }, by simp [Channel.leave, ho], ?_⟩
    rw [told_concat, if_pos rfl, hpongs, List.append_nil, (h.told_of_sending he hsending ho).1]
    exact .left (hgone rfl hlast) (taken_prefix_history hsound ho)
  | @send m v₀ o chunk rest he hsending ho hqueue =>
    obtain rfl : m = n := by simpa using hown
    obtain rfl : v₀ = v := by simpa using he.symm.trans hv
    refine ⟨o.receive 1, observer_of_receive ho, ?_⟩
    -- the chunk that is sent is the one that is received
    have hmore : (o.receive 1).taken.map Frame.binary =
        o.taken.map Frame.binary ++ [.binary chunk] := by
      simp [Observer.receive, hqueue]
    obtain ⟨htold, hreading, hroom⟩ := h.told_of_sending he hsending ho
    rw [told_concat, if_pos rfl, htold, hsending]
    exact hmore ▸ Told.sending hreading hroom
  | @lose m v₀ o chunk rest he hsending ho hqueue =>
    obtain rfl : m = n := by simpa using hown
    obtain rfl : (⟨v₀.observer, false⟩ : Follower) = v := by simpa using hv
    refine ⟨{ o.receive 1 with reading := false },
      by simp [Channel.leave, observer_of_receive ho], ?_⟩
    rw [told_concat, if_pos rfl, (h.told_of_sending he hsending ho).1]
    -- the chunk that was received has not been sent
    have hprefix : o.taken <+:
        ((r.log.receive v₀.observer (some 1)).1.leave v₀.observer).history := by
      show o.taken <+: (r.log.receive v₀.observer (some 1)).1.history
      rw [Channel.history_receive]
      exact taken_prefix_history hsound ho
    simpa using Told.left (hgone rfl rfl) hprefix
  | @finish m v₀ through he hsending hend =>
    obtain rfl : m = n := by simpa using hown
    obtain rfl : (⟨v₀.observer, false⟩ : Follower) = v := by simpa using hv
    obtain ⟨o, ho, _⟩ := h.told m v₀ he
    obtain ⟨hqueue, hlive⟩ := hend o ho
    refine ⟨o.receive 1, observer_of_receive ho, ?_⟩
    have hsame : (o.receive 1).taken = o.taken := by simp [Observer.receive, hqueue]
    rw [told_concat, if_pos rfl, (h.told_of_sending he hsending ho).1]
    -- the close frame gets through, or the socket is lost before it
    cases through with
    | true =>
      rw [← hsame]
      exact .ended (by simp [Observer.receive, hqueue]) hlive
    | false =>
      rw [Channel.history_receive]
      simpa using Told.left (hgone rfl rfl) (taken_prefix_history hsound ho)

private theorem told_of_moves (h : r.Followed register) (hsound : r.log.Sound)
    (huntouched : ∀ n, r.ends n = none → Untouched n register) (hm : r.Moves events r') :
    ∀ n v, r'.ends n = some (.follower v) → ∃ o, r'.log.observers[v.observer]? = some o ∧
      Told r'.log.history o (StaysOpen n (register ++ events)) v.sending
        (Log.told n (register ++ events)) := by
  intro n v hv
  -- something happens at this socket, or it goes on as it was, or it is new
  by_cases hown : ∃ e ∈ events, e.socket = n
  · exact h.told_of_own hsound hm hv hown
  · have hne : ∀ e ∈ events, e.socket ≠ n := fun e he heq => hown ⟨e, he, heq⟩
    rcases seat_of_moves hm hv with ⟨v₀, hv₀, _, hsame⟩ | ⟨hnone, rfl, hlog, _⟩
    · obtain rfl := hsame hne
      exact h.told_of_aside hm hv₀ hne
    · rw [hlog, told_append_of_ne hne]
      exact told_of_joining (huntouched n hnone) _

/-- Every change keeps the invariant. -/
theorem of_moves (h : r.Followed register) (hsound : r.log.Sound)
    (huntouched : ∀ n, r.ends n = none → Untouched n register) (hm : r.Moves events r') :
    r'.Followed (register ++ events) :=
  ⟨h.apart_of_moves hm, h.told_of_moves hsound huntouched hm⟩

/-! ### Turns -/

/-- Every turn that gets through sends one frame, and nothing else does. -/
private theorem counted_of_moves (hm : r.Moves events r') (hn : ∀ p, r.ends n ≠ some (.producer p)) :
    (Log.told n events).length = turns n events := by
  have hother : ∀ {e : SocketEvent}, e.socket ≠ n →
      (Log.told n [e]).length = turns n [e] := by
    intro e hne
    simp [Log.told, turns, hne]
  -- at another socket nothing is counted; at this one each turn sends one frame
  cases hm with
  | stays | close | joinProducer | joinFollower => rfl
  | @produce m _ _ _ _ _ he | @pass m _ _ _ _ he =>
    refine hother ?_
    rintro rfl
    exact hn _ he
  | @ignore m _ _ _ _ hpongs | @leave m _ _ _ _ _ _ hpongs =>
    by_cases hmn : m = n
    · simp [Log.told, turns, hmn, hpongs]
    · exact hother hmn
  | @send m | @lose m =>
    by_cases hmn : m = n
    · simp [Log.told, turns, hmn, Frame.isPong]
    · exact hother hmn
  | @finish m _ through =>
    by_cases hmn : m = n
    · cases through <;> simp [Log.told, turns, hmn, Frame.isPong]
    · exact hother hmn

theorem turns_of_moves (huntouched : ∀ n, r.ends n = none → Untouched n register)
    (hturns : ∀ n v, r.ends n = some (.follower v) → (Log.told n register).length = turns n register)
    (hm : r.Moves events r') : ∀ n v, r'.ends n = some (.follower v) →
      (Log.told n (register ++ events)).length = turns n (register ++ events) := by
  intro n v hv
  have htold : Log.told n (register ++ events) = Log.told n register ++ Log.told n events := by
    simp [Log.told]
  have hsum : turns n (register ++ events) = turns n register + turns n events := by
    simp [turns]
  rw [htold, hsum, List.length_append]
  rcases seat_of_moves hm hv with ⟨v₀, hv₀, _⟩ | ⟨hnone, _⟩
  · rw [hturns n v₀ hv₀, counted_of_moves hm (by simp [hv₀])]
  -- a socket that has just joined has had no turn
  · have hzero : turns n register = 0 := by
      refine List.length_eq_zero_iff.mpr (List.filter_eq_nil_iff.mpr fun e he => ?_)
      simp [huntouched n hnone e he]
    rw [(huntouched n hnone).told, hzero, counted_of_moves hm (by simp [hnone])]
    rfl

end Followed

/-! ## §2 Followers That Are Never Cut Off -/

/-- Whether the observer of a follower has been cut off while the log is open: it has fallen behind,
or nobody reads for it any more. -/
def isBehind (r : Room) (n : Nat) : Bool :=
  match r.ends n with
  | some (.follower v) => !r.log.closed && r.log.observers[v.observer]?.any fun o => !o.live
  | _ => false

section Whole

variable {r r' : Room} {register events : List SocketEvent} {n : Nat} {v : Follower} {o : Observer}

/-- Only the end of the log closes it. -/
private theorem close_of_moves (hm : r.Moves events r') (hopen : r.log.closed = false)
    (hclosed : r'.log.closed = true) : r.log.close? = some r'.log ∧ r'.ends = r.ends := by
  have hreceive : ∀ i, (r.log.receive i (some 1)).1.closed = false := by
    intro i
    unfold Channel.receive
    split <;> exact hopen
  -- receiving, leaving and joining keep the mark as it is
  cases hm with
  | close hclose => exact ⟨hclose, rfl⟩
  | stays | joinProducer | joinFollower | pass | ignore | leave =>
    rw [show r.log.closed = true from hclosed] at hopen
    cases hopen
  | produce => simp [Channel.append, hopen] at hclosed
  | send | finish =>
    rw [hreceive] at hclosed
    cases hclosed
  | lose =>
    have hafter : (r.log.receive _ (some 1)).1.closed = true := hclosed
    rw [hreceive] at hafter
    cases hafter

/-- A follower that is never cut off before the log ends is to be sent the whole log. -/
theorem whole_of_moves (hsound : r.log.Sound) (hm : r.Moves events r')
    (hseated : ∃ o, r'.log.observers[v.observer]? = some o) (hv : r'.ends n = some (.follower v))
    (hkept : r'.isBehind n = false)
    (hwhole : ∀ v, r.ends n = some (.follower v) → ∃ o, r.log.observers[v.observer]? = some o ∧
      o.sent = r.log.history) :
    ∃ o, r'.log.observers[v.observer]? = some o ∧ o.sent = r'.log.history := by
  obtain ⟨o', ho'⟩ := hseated
  refine ⟨o', ho', ?_⟩
  cases hclosed' : r'.log.closed with
  | false =>
    -- while the log is open a live observer has been sent all of it
    have hlive : o'.live = true := by simpa [isBehind, hv, hclosed', ho'] using hkept
    exact ((sound_of_moves hm hsound).follows o' (List.mem_of_getElem? ho')).whole hlive
  | true =>
    cases hclosed : r.log.closed with
    | false =>
      obtain ⟨hclose, hends⟩ := close_of_moves hm hclosed hclosed'
      obtain ⟨o, ho, hsent⟩ := hwhole v (hends ▸ hv)
      -- closing cuts the observer off, and takes nothing from it
      rw [Channel.history_close hclose, ← hsent]
      simp only [Channel.close?, hclosed, Bool.false_eq_true, if_false, Option.some.injEq] at hclose
      rw [← hclose] at ho'
      obtain rfl : o.cutOff = o' := by simpa [ho] using ho'
      rfl
    | true =>
      rw [((history_of_moves hm).2 hclosed).2]
      rcases Followed.seat_of_moves hm hv with ⟨v₀, hv₀, hobserver, _⟩ | ⟨_, rfl, hlog, _⟩
      · obtain ⟨o, ho, hsent⟩ := hwhole v₀ hv₀
        have hquiet := hsound.quiet hclosed o (List.mem_of_getElem? ho)
        -- in a closed log nobody is live, so nobody is sent anything more
        obtain ⟨o'', ho'', _, hsame⟩ := keeps_of_moves hm _ o ho hquiet
        rw [hobserver] at ho''
        obtain rfl : o'' = o' := Option.some.inj (ho''.symm.trans ho')
        rw [hsame, hsent]
      · -- one that joins a closed log has room for all of it
        rw [hlog] at ho'
        have hjoined : (Follower.connect r.log).1.observers[r.log.observers.length]? =
            some (.joining r.log.history r.log.closed (r.log.history.length + backlog) true) :=
          List.getElem?_concat_length
        obtain rfl := Option.some.inj (hjoined.symm.trans ho')
        exact Observer.sent_joining_of_room rfl (Nat.le_add_right _ _)

/-- Whether an observer is live changes by an append alone, as long as the log is open. -/
private theorem live_of_moves (hm : r.Moves events r') {i : Nat}
    (ho : r.log.observers[i]? = some o) (hopen' : r'.log.closed = false) :
    ∃ o', r'.log.observers[i]? = some o' ∧
      (o'.live = o.live ∨ ∃ chunk, o' = o.offer chunk) := by
  have hreceive : ∀ j, ∃ o', (r.log.receive j (some 1)).1.observers[i]? = some o' ∧
      o'.live = o.live := by
    intro j
    cases hj : r.log.observers[j]? with
    | none => exact ⟨o, by simpa [Channel.receive, hj] using ho, rfl⟩
    | some x =>
      rw [receive_of_observer hj]
      by_cases hij : j = i
      · subst hij
        obtain rfl : x = o := Option.some.inj (hj.symm.trans ho)
        exact ⟨_, List.getElem?_set_self (List.getElem?_eq_some_iff.mp ho).1, rfl⟩
      · exact ⟨o, by simpa [hij] using ho, rfl⟩
  have hleave : ∀ {ch : Channel} {x : Observer} (j : Nat), ch.observers[i]? = some x →
      ∃ o', (ch.leave j).observers[i]? = some o' ∧ o'.live = x.live := by
    intro ch x j hx
    rw [Channel.leave, List.getElem?_modify, hx]
    split
    · exact ⟨_, rfl, rfl⟩
    · exact ⟨x, rfl, rfl⟩
  -- closing is ruled out, as the log is open afterwards
  cases hm with
  | stays | joinProducer | pass | ignore => exact ⟨o, ho, .inl rfl⟩
  | close hclose =>
    unfold Channel.close? at hclose
    split at hclose
    · cases hclose
    · cases hclose
      cases hopen'
  | joinFollower =>
    have hlt : i < r.log.observers.length := (List.getElem?_eq_some_iff.mp ho).1
    exact ⟨o, (List.getElem?_append_left hlt).trans ho, .inl rfl⟩
  | @produce _ _ _ _ _ chunk _ _ hopen =>
    exact ⟨o.offer chunk, by simp [Channel.append, hopen, ho], .inr ⟨chunk, rfl⟩⟩
  | leave =>
    obtain ⟨o', ho', hlive⟩ := hleave _ ho
    exact ⟨o', ho', .inl hlive⟩
  | send | finish =>
    obtain ⟨o', ho', hlive⟩ := hreceive _
    exact ⟨o', ho', .inl hlive⟩
  | lose =>
    obtain ⟨x, hx, hlive⟩ := hreceive _
    obtain ⟨o', ho', hlive'⟩ := hleave _ hx
    exact ⟨o', ho', .inl (hlive'.trans hlive)⟩

/-- A follower that stays is cut off while the log is open only if a whole backlog is queued. -/
theorem backlog_of_behind (h : r.Followed register) (hm : r.Moves events r')
    (hv : r.ends n = some (.follower v)) (hstays : StaysOpen n register)
    (hbefore : r.isBehind n = false) (hafter : r'.isBehind n = true) :
    ∃ o, r.log.observers[v.observer]? = some o ∧ backlog ≤ o.queue.length := by
  obtain ⟨o, ho, htold⟩ := h.told n v hv
  refine ⟨o, ho, ?_⟩
  -- afterwards the log is open, and the observer is not live
  obtain ⟨v', hv', hopen', o', ho', hcut⟩ : ∃ v', r'.ends n = some (.follower v') ∧
      r'.log.closed = false ∧ ∃ o', r'.log.observers[v'.observer]? = some o' ∧
        o'.live = false := by
    unfold isBehind at hafter
    split at hafter
    · rename_i v' hv'
      simp only [Bool.and_eq_true, Bool.not_eq_true', Option.any_eq_true] at hafter
      exact ⟨v', hv', hafter⟩
    · cases hafter
  have hseat : v.observer = v'.observer := by
    rcases Followed.seat_of_moves hm hv' with ⟨v₀, hv₀, hsame, _⟩ | ⟨hnone, _⟩
    · obtain rfl : v₀ = v := by simpa using hv₀.symm.trans hv
      exact hsame
    · rw [hv] at hnone
      cases hnone
  have hopen : r.log.closed = false := by
    cases hclosed : r.log.closed with
    | false => rfl
    | true =>
      rw [((history_of_moves hm).2 hclosed).1] at hopen'
      cases hopen'
  have hlive : o.live = true := by simpa [isBehind, hv, hopen, ho] using hbefore
  obtain ⟨x, hx, hcases⟩ := live_of_moves hm ho hopen'
  rw [hseat] at hx
  obtain rfl : x = o' := Option.some.inj (hx.symm.trans ho')
  rcases hcases with hsame | ⟨chunk, rfl⟩
  · rw [hsame, hlive] at hcut
    cases hcut
  · -- the chunk could not be sent, though the observer reads
    generalize hsending : v.sending = sending at htold
    generalize Log.told n register = fs at htold
    cases htold with
    | left hgone => exact absurd hstays hgone
    | ended _ hquiet =>
      rw [hlive] at hquiet
      cases hquiet
    | sending hreading hroom =>
      by_contra hfits
      rw [Observer.offer, hlive, Observer.send?_of_room chunk hreading (by omega)] at hcut
      simp [hlive] at hcut

/-- What a follower that has stayed, and has never been cut off before the end, has been told: the
whole log and its end, or a beginning of the log; and then it can take another turn, unless it has
been told all of a log that is still open. -/
theorem told_of_whole (h : r.Followed register) (hv : r.ends n = some (.follower v))
    (ho : r.log.observers[v.observer]? = some o) (hwhole : o.sent = r.log.history)
    (hsound : r.log.Sound) (hstays : StaysOpen n register) (hkept : r.isBehind n = false) :
    r.log.closed = true ∧ told n register = r.log.history.map .binary ++ [.close none] ∨
      ∃ chunks, chunks <+: r.log.history ∧ told n register = chunks.map .binary ∧
        ((SocketEnd.turn? r.log true (.follower v)).isSome = true ∨
          r.log.closed = false ∧ chunks = r.log.history) := by
  obtain ⟨o', ho', htold⟩ := h.told n v hv
  obtain rfl : o' = o := Option.some.inj (ho'.symm.trans ho)
  generalize hsending : v.sending = sending at htold
  generalize hfs : told n register = fs at htold
  cases htold with
  | left hgone => exact absurd hstays hgone
  | ended hqueue hlive =>
    have hall : o'.taken = r.log.history := by simpa [Observer.sent, hqueue] using hwhole
    refine .inl ⟨?_, by rw [hall]⟩
    by_contra hopen
    simp [isBehind, hv, ho, hlive, hopen] at hkept
  | sending =>
    apply Or.inr
    refine ⟨o'.taken, ⟨o'.queue, hwhole⟩, rfl, ?_⟩
    cases hqueue : o'.queue with
    | cons chunk rest =>
      rw [turn?_of_chunk hsending ho hqueue]
      exact .inl rfl
    | nil =>
      have hall : o'.taken = r.log.history := by simpa [Observer.sent, hqueue] using hwhole
      cases hclosed : r.log.closed with
      | false => exact .inr ⟨rfl, hall⟩
      | true =>
        -- whoever follows a closed log is told so when nothing is queued any more
        have hquiet := hsound.quiet hclosed o' (List.mem_of_getElem? ho)
        have hend : ∀ x, r.log.observers[v.observer]? = some x → x.queue = [] ∧ x.live = false := by
          intro x hx
          obtain rfl : o' = x := Option.some.inj (ho.symm.trans hx)
          exact ⟨hqueue, hquiet⟩
        rw [turn?_of_end hsending hend]
        exact .inl rfl

end Whole

end Room

end BuildBroker.Log
