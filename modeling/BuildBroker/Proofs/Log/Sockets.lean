import Mathlib.Data.List.TakeWhile
import Mathlib.Logic.Function.Basic
import BuildBroker.Log.Socket
import BuildBroker.Proofs.Log.FanOut

/-!
# A Log and Its Sockets

Producers write to a log and followers are sent it, each through a socket of its own, while the log
may be closed at any time. What happens at the sockets is entered in a register, from which one can
tell what has arrived from each producer and what has been sent to each follower.

Main statements:
- `heard`, `produced`, `told`: what the register says of a socket.
- `Room.Moves`: the ways in which a log and the sockets on it change.
- `Room.moves_of_step?`: a step at a socket is one of them.
-/

namespace BuildBroker.Log

/-! ## §1 What Is Entered in the Register -/

/-- Something that has happened at a socket. -/
structure SocketEvent where
  /-- The number of the socket. -/
  socket : Nat
  step : SocketStep
  /-- The frames that were sent on it. -/
  sent : List Frame
  /-- Whether the log was open. -/
  logOpen : Bool

/-- Whether nothing is read after it: a close frame, or the end of the connection or its failure. -/
def isLast : Option Frame → Bool
  | none | some (.close _) => true
  | some _ => false

/-- The chunks of what has arrived from a producer: one for each frame of text or of octets, up to the
first close frame and the end of the connection. -/
def produced (fs : List (Option Frame)) : List Bytes :=
  (fs.takeWhile fun f => !isLast f).filterMap fun f => f.bind Frame.chunk?

/-- What has arrived at a socket while the log was open. -/
def heard (n : Nat) (register : List SocketEvent) : List (Option Frame) :=
  register.filterMap fun e =>
    match e.step with
    | .arrive f => if e.socket = n ∧ e.logOpen = true then some f else none
    | .turn _ => none

/-- Whether a frame answers a ping. -/
def Frame.isPong : Frame → Bool
  | .pong _ => true
  | _ => false

/-- The frames that have been sent on a socket, besides answers to pings. -/
def told (n : Nat) (register : List SocketEvent) : List Frame :=
  ((register.filter (·.socket = n)).flatMap (·.sent)).filter fun f => !f.isPong

/-- How many turns a socket has had that got through. -/
def turns (n : Nat) (register : List SocketEvent) : Nat :=
  (register.filter fun e => e.socket = n ∧ e.step = .turn true).length

/-- Whether the other end of a socket leaves, or cannot be reached any more. -/
def SocketStep.leaves : SocketStep → Bool
  | .arrive f => isLast f
  | .turn through => !through

/-- The other end of a socket has not left, and has always been reached. -/
def StaysOpen (n : Nat) (register : List SocketEvent) : Prop :=
  ∀ e ∈ register, e.socket = n → e.step.leaves = false

section Register

variable {n : Nat} {register : List SocketEvent} {e : SocketEvent} {f : Option Frame}

theorem chunk?_of_isLast (h : isLast f = true) : f.bind Frame.chunk? = none := by
  unfold isLast at h
  split at h
  · rfl
  · rfl
  · cases h

/-- What arrives after the last frame is not read. -/
theorem produced_concat_of_last {fs : List (Option Frame)} (h : fs.any isLast = true) :
    produced (fs ++ [f]) = produced fs := by
  obtain ⟨x, hx, hlast⟩ := List.any_eq_true.mp h
  unfold produced
  rw [List.takeWhile_append, if_neg]
  intro hall
  -- the first frames would be all of them, and none of these the last
  have hself := (List.takeWhile_sublist (p := fun f => !isLast f) (l := fs)).eq_of_length hall
  have hnot := List.takeWhile_eq_self_iff.mp hself x hx
  simp [hlast] at hnot

theorem produced_concat {fs : List (Option Frame)} (h : fs.any isLast = false) :
    produced (fs ++ [f]) = produced fs ++ (f.bind Frame.chunk?).toList := by
  have hall : ∀ x ∈ fs, (!isLast x) = true := by
    intro x hx
    have hx' := List.any_eq_false.mp h x hx
    simpa using hx'
  have hself : fs.takeWhile (fun f => !isLast f) = fs := List.takeWhile_eq_self_iff.mpr hall
  unfold produced
  rw [List.takeWhile_append, if_pos (by rw [hself]), List.filterMap_append, hself]
  congr 1
  cases hlast : isLast f with
  | true => simp [hlast, chunk?_of_isLast hlast]
  | false => cases hchunk : f.bind Frame.chunk? <;> simp [hlast, hchunk]

theorem heard_concat :
    heard n (register ++ [e]) = heard n register ++
      (match e.step with
        | .arrive f => if e.socket = n ∧ e.logOpen = true then [f] else []
        | .turn _ => []) := by
  unfold heard
  rw [List.filterMap_append]
  congr 1
  cases hstep : e.step with
  | arrive f =>
    by_cases hn : e.socket = n ∧ e.logOpen = true <;> simp [hstep, hn]
  | turn through => simp [hstep]

theorem told_concat :
    told n (register ++ [e]) = told n register ++
      if e.socket = n then e.sent.filter (fun f => !f.isPong) else [] := by
  unfold told
  rw [List.filter_append, List.flatMap_append, List.filter_append]
  congr 1
  by_cases hn : e.socket = n <;> simp [hn]

theorem staysOpen_concat : StaysOpen n (register ++ [e]) ↔
    StaysOpen n register ∧ (e.socket = n → e.step.leaves = false) := by
  simp only [StaysOpen, List.mem_append, List.mem_singleton]
  constructor
  · intro h
    exact ⟨fun x hx => h x (.inl hx), h e (.inr rfl)⟩
  · rintro ⟨hold, hnew⟩ x (hx | rfl)
    · exact hold x hx
    · exact hnew

/-- What is entered of other sockets says nothing of this one. -/
theorem heard_append_of_ne {events : List SocketEvent} (h : ∀ e ∈ events, e.socket ≠ n) :
    heard n (register ++ events) = heard n register := by
  have hnone : heard n events = [] := by
    refine List.filterMap_eq_nil_iff.mpr fun e he => ?_
    cases e.step <;> simp [h e he]
  have happend : heard n (register ++ events) = heard n register ++ heard n events :=
    List.filterMap_append
  rw [happend, hnone, List.append_nil]

theorem told_append_of_ne {events : List SocketEvent} (h : ∀ e ∈ events, e.socket ≠ n) :
    told n (register ++ events) = told n register := by
  have hnone : events.filter (·.socket = n) = [] :=
    List.filter_eq_nil_iff.mpr fun e he => by simp [h e he]
  simp [told, List.filter_append, hnone]

/-- A socket of which nothing has been entered. -/
def Untouched (n : Nat) (register : List SocketEvent) : Prop :=
  ∀ e ∈ register, e.socket ≠ n

theorem Untouched.heard (h : Untouched n register) : heard n register = [] := by
  rw [← List.nil_append register, heard_append_of_ne h]
  rfl

theorem Untouched.told (h : Untouched n register) : told n register = [] := by
  rw [← List.nil_append register, told_append_of_ne h]
  rfl

end Register

/-! ## §2 Steps of Sockets -/

theorem receive_of_chunk (ch : Channel) {p : Producer} {f : Frame} {chunk : Bytes}
    (hlistening : p.listening = true) (hchunk : f.chunk? = some chunk) :
    p.receive ch f = (⟨(ch.append chunk).2⟩, (ch.append chunk).1, []) := by
  simp [Producer.receive, hlistening, hchunk]

/-- A frame without a chunk leaves the log as it is, and the broker listens on unless it is the last
frame. -/
theorem receive_of_no_chunk (ch : Channel) {p : Producer} {f : Frame}
    (hlistening : p.listening = true) (hchunk : f.chunk? = none) :
    ∃ fs, p.receive ch f = (⟨!isLast (some f)⟩, ch, fs) := by
  cases f with
  | text t | binary t => cases hchunk
  | ping t | pong t | close code =>
    obtain ⟨listening⟩ := p
    obtain rfl : listening = true := hlistening
    exact ⟨_, rfl⟩

/-- What becomes of a producer and of the log when something arrives: a chunk is appended if the
broker still listens and the log is open, and the broker listens on until the last frame. -/
theorem arrive_producer (ch : Channel) (p : Producer) (f : Option Frame) :
    ∃ p' ch' fs, SocketEnd.arrive ch (.producer p) f = (.producer p', ch', fs) ∧
      (ch.closed = false → p'.listening = (p.listening && !isLast f)) ∧
      ((∃ chunk, p.listening = true ∧ ch.closed = false ∧ f.bind Frame.chunk? = some chunk ∧
          ch' = (ch.append chunk).1) ∨
        ch' = ch ∧
          (p.listening = true → ch.closed = false → f.bind Frame.chunk? = none)) := by
  cases f with
  | none => exact ⟨⟨false⟩, ch, [], rfl, by simp [isLast], .inr ⟨rfl, fun _ _ => rfl⟩⟩
  | some f =>
    cases hlistening : p.listening with
    -- nobody listens: the frame is dropped
    | false =>
      refine ⟨p, ch, [], ?_, by simp [hlistening], .inr ⟨rfl, by simp⟩⟩
      simp [SocketEnd.arrive, Producer.receive, hlistening]
    | true =>
      cases hchunk : f.chunk? with
      | none =>
        -- a frame without a chunk is answered, and a last one ends the listening
        obtain ⟨fs, hreceive⟩ := receive_of_no_chunk ch hlistening hchunk
        refine ⟨⟨!isLast (some f)⟩, ch, fs, by rw [SocketEnd.arrive, hreceive],
          fun _ => (Bool.true_and _).symm, .inr ⟨rfl, fun _ _ => hchunk⟩⟩
      | some chunk =>
        -- a chunk is appended, as long as the log is open
        have hreceive := receive_of_chunk ch hlistening hchunk
        refine ⟨⟨(ch.append chunk).2⟩, (ch.append chunk).1, [],
          by rw [SocketEnd.arrive, hreceive], ?_, ?_⟩
        · intro hopen
          cases f <;> simp_all [Channel.append, isLast, Frame.chunk?]
        · cases hclosed : ch.closed with
          | false => exact .inl ⟨chunk, rfl, rfl, hchunk, rfl⟩
          | true => exact .inr ⟨by simp [Channel.append, hclosed], by simp⟩

/-- Nothing is sent to a follower upon what arrives from it, but answers to pings; and the broker
leaves upon the last frame. -/
theorem arrive_follower (ch : Channel) (v : Follower) (f : Option Frame) :
    ∃ v' ch' fs, SocketEnd.arrive ch (.follower v) f = (.follower v', ch', fs) ∧
      fs.filter (fun f => !f.isPong) = [] ∧
      (v' = v ∧ ch' = ch ∨
        v.sending = true ∧ isLast f = true ∧ v' = ⟨v.observer, false⟩ ∧
          ch' = ch.leave v.observer) := by
  cases hsending : v.sending with
  | false =>
    refine ⟨v, ch, [], ?_, rfl, .inl ⟨rfl, rfl⟩⟩
    cases f <;> simp [SocketEnd.arrive, Follower.receive, Follower.leave, hsending]
  | true =>
    cases f with
    | none =>
      refine ⟨⟨v.observer, false⟩, ch.leave v.observer, [], ?_, rfl, .inr ⟨rfl, rfl, rfl, rfl⟩⟩
      simp [SocketEnd.arrive, Follower.leave, hsending]
    | some f =>
      cases f with
      -- a close frame ends the following as the end of the connection does
      | close code =>
        refine ⟨⟨v.observer, false⟩, ch.leave v.observer, [], ?_, rfl, .inr ⟨rfl, rfl, rfl, rfl⟩⟩
        simp [SocketEnd.arrive, Follower.receive, Follower.leave, hsending]
      -- what a follower says is not for the log
      | text t | binary t | pong t =>
        refine ⟨v, ch, [], ?_, rfl, .inl ⟨rfl, rfl⟩⟩
        simp [SocketEnd.arrive, Follower.receive, hsending, Frame.reply?]
      | ping t =>
        refine ⟨v, ch, [.pong t], ?_, rfl, .inl ⟨rfl, rfl⟩⟩
        simp [SocketEnd.arrive, Follower.receive, hsending, Frame.reply?]

section Turn

variable {ch : Channel} {v : Follower} {o : Observer} {through : Bool}

/-- Receiving one chunk changes one observer. -/
theorem receive_of_observer {i : Nat} (ho : ch.observers[i]? = some o) :
    ch.receive i (some 1) =
      ({ ch with observers := ch.observers.set i (o.receive 1) },
        ⟨o.queue.take 1, decide (o.queue.length < 1) && (o.receive 1).atEnd⟩) := by
  simp [Channel.receive, ho]

/-- A follower for which a chunk is queued is sent that. -/
theorem turn?_of_chunk {chunk : Bytes} {rest : List Bytes} (hsending : v.sending = true)
    (ho : ch.observers[v.observer]? = some o) (hqueue : o.queue = chunk :: rest) :
    SocketEnd.turn? ch through (.follower v) =
      let ch' := (ch.receive v.observer (some 1)).1
      if through then some (.follower v, ch', [.binary chunk])
      else some (.follower ⟨v.observer, false⟩, ch'.leave v.observer, []) := by
  cases through <;>
    simp [SocketEnd.turn?, Follower.turn, Follower.leave, hsending, receive_of_observer ho, hqueue]

/-- A follower for which nothing is queued, and nothing will be, is told so. -/
theorem turn?_of_end (hsending : v.sending = true)
    (hend : ∀ o, ch.observers[v.observer]? = some o → o.queue = [] ∧ o.live = false) :
    SocketEnd.turn? ch through (.follower v) =
      some (.follower ⟨v.observer, false⟩, (ch.receive v.observer (some 1)).1,
        if through then [.close none] else []) := by
  have hturn : v.turn ch =
      (⟨v.observer, false⟩, (ch.receive v.observer (some 1)).1, some (.close none)) := by
    cases ho : ch.observers[v.observer]? with
    | none => simp [Follower.turn, hsending, Channel.receive, ho]
    | some o =>
      obtain ⟨hqueue, hlive⟩ := hend o ho
      simp [Follower.turn, hsending, receive_of_observer ho, hqueue, hlive, Observer.receive,
        Observer.atEnd]
  cases through <;> simp [SocketEnd.turn?, hturn, Follower.leave]

/-- A follower for which nothing is queued now waits. -/
theorem turn?_of_waiting (ho : ch.observers[v.observer]? = some o) (hqueue : o.queue = [])
    (hlive : o.live = true) : SocketEnd.turn? ch through (.follower v) = none := by
  cases hsending : v.sending <;>
    simp [SocketEnd.turn?, Follower.turn, hsending, receive_of_observer ho, hqueue, hlive,
      Observer.receive, Observer.atEnd]

theorem turn?_of_stopped (hsending : v.sending = false) :
    SocketEnd.turn? ch through (.follower v) = none := by
  simp [SocketEnd.turn?, Follower.turn, hsending]

end Turn

/-! ## §3 How a Log and Its Sockets Change -/

/-- A log with the broker's ends of the sockets on it, by their numbers. -/
structure Room where
  log : Channel
  ends : Nat → Option SocketEnd

namespace Room

/-- A fresh log without a socket. -/
def empty : Room := ⟨.empty, fun _ => none⟩

/-- The ways in which a log and the sockets on it change, with what is entered in the register. -/
inductive Moves (r : Room) : List SocketEvent → Room → Prop where
  | stays : Moves r [] r
  | close {log : Channel} : r.log.close? = some log → Moves r [] { r with log }
  | joinProducer {n : Nat} : r.ends n = none →
      Moves r [] { r with ends := Function.update r.ends n (some (.producer .connected)) }
  | joinFollower {n : Nat} : r.ends n = none →
      Moves r [] ⟨(Follower.connect r.log).1,
        Function.update r.ends n (some (.follower (Follower.connect r.log).2))⟩
  /-- A chunk arrives from a producer and is appended. -/
  | produce {n : Nat} {p p' : Producer} {f : Option Frame} {fs : List Frame} {chunk : Bytes} :
      r.ends n = some (.producer p) → p.listening = true → r.log.closed = false →
      f.bind Frame.chunk? = some chunk → p'.listening = (p.listening && !isLast f) →
      Moves r [⟨n, .arrive f, fs, !r.log.closed⟩]
        ⟨(r.log.append chunk).1, Function.update r.ends n (some (.producer p'))⟩
  /-- Something else arrives from a producer, or a chunk that is refused. -/
  | pass {n : Nat} {p p' : Producer} {f : Option Frame} {fs : List Frame} :
      r.ends n = some (.producer p) →
      (p.listening = true → r.log.closed = false → f.bind Frame.chunk? = none) →
      (r.log.closed = false → p'.listening = (p.listening && !isLast f)) →
      Moves r [⟨n, .arrive f, fs, !r.log.closed⟩]
        { r with ends := Function.update r.ends n (some (.producer p')) }
  /-- What arrives from a follower changes nothing. -/
  | ignore {n : Nat} {v : Follower} {f : Option Frame} {fs : List Frame} :
      r.ends n = some (.follower v) → fs.filter (fun f => !f.isPong) = [] →
      Moves r [⟨n, .arrive f, fs, !r.log.closed⟩] r
  /-- A follower leaves. -/
  | leave {n : Nat} {v : Follower} {f : Option Frame} {fs : List Frame} :
      r.ends n = some (.follower v) → v.sending = true → isLast f = true →
      fs.filter (fun f => !f.isPong) = [] →
      Moves r [⟨n, .arrive f, fs, !r.log.closed⟩] ⟨r.log.leave v.observer,
        Function.update r.ends n (some (.follower ⟨v.observer, false⟩))⟩
  /-- A follower is sent a chunk. -/
  | send {n : Nat} {v : Follower} {o : Observer} {chunk : Bytes} {rest : List Bytes} :
      r.ends n = some (.follower v) → v.sending = true →
      r.log.observers[v.observer]? = some o → o.queue = chunk :: rest →
      Moves r [⟨n, .turn true, [.binary chunk], !r.log.closed⟩]
        { r with log := (r.log.receive v.observer (some 1)).1 }
  /-- Sending a chunk to a follower fails. -/
  | lose {n : Nat} {v : Follower} {o : Observer} {chunk : Bytes} {rest : List Bytes} :
      r.ends n = some (.follower v) → v.sending = true →
      r.log.observers[v.observer]? = some o → o.queue = chunk :: rest →
      Moves r [⟨n, .turn false, [], !r.log.closed⟩]
        ⟨(r.log.receive v.observer (some 1)).1.leave v.observer,
          Function.update r.ends n (some (.follower ⟨v.observer, false⟩))⟩
  /-- A follower is told that nothing more will come. -/
  | finish {n : Nat} {v : Follower} {through : Bool} :
      r.ends n = some (.follower v) → v.sending = true →
      (∀ o, r.log.observers[v.observer]? = some o → o.queue = [] ∧ o.live = false) →
      Moves r [⟨n, .turn through, if through then [.close none] else [], !r.log.closed⟩]
        ⟨(r.log.receive v.observer (some 1)).1,
          Function.update r.ends n (some (.follower ⟨v.observer, false⟩))⟩

/-- A step at a socket is one of these changes. -/
theorem moves_of_step? {r : Room} {n : Nat} {y : SocketStep} {e e' : SocketEnd} {log : Channel}
    {fs : List Frame} (he : r.ends n = some e) (h : e.step? r.log y = some (e', log, fs)) :
    r.Moves [⟨n, y, fs, !r.log.closed⟩] ⟨log, Function.update r.ends n (some e')⟩ := by
  have hsame : Function.update r.ends n (some e) = r.ends := by
    rw [← he]
    exact Function.update_eq_self n r.ends
  cases y with
  | arrive f =>
    have harrive : e.arrive r.log f = (e', log, fs) := Option.some.inj h
    cases e with
    | producer p =>
      obtain ⟨p', ch', fs', heq, hlistening, hlog⟩ := arrive_producer r.log p f
      obtain ⟨rfl, rfl, rfl⟩ : SocketEnd.producer p' = e' ∧ ch' = log ∧ fs' = fs := by
        simpa using heq.symm.trans harrive
      rcases hlog with ⟨chunk, hlistens, hopen, hchunk, rfl⟩ | ⟨rfl, hnone⟩
      · exact .produce he hlistens hopen hchunk (hlistening hopen)
      · exact .pass he hnone hlistening
    | follower v =>
      obtain ⟨v', ch', fs', heq, hpongs, hlog⟩ := arrive_follower r.log v f
      obtain ⟨rfl, rfl, rfl⟩ : SocketEnd.follower v' = e' ∧ ch' = log ∧ fs' = fs := by
        simpa using heq.symm.trans harrive
      rcases hlog with ⟨rfl, rfl⟩ | ⟨hsending, hlast, rfl, rfl⟩
      · rw [hsame]
        exact .ignore he hpongs
      · exact .leave he hsending hlast hpongs
  | turn through =>
    have hturn : e.turn? r.log through = some (e', log, fs) := h
    cases e with
    | producer p => cases hturn
    | follower v =>
      cases hsending : v.sending with
      | false =>
        rw [turn?_of_stopped hsending] at hturn
        cases hturn
      | true =>
        -- nothing comes any more, or a chunk is queued, or the follower waits
        by_cases hend : ∀ o, r.log.observers[v.observer]? = some o → o.queue = [] ∧ o.live = false
        · rw [turn?_of_end hsending hend] at hturn
          cases hturn
          exact .finish he hsending hend
        · obtain ⟨o, ho, hmore⟩ : ∃ o, r.log.observers[v.observer]? = some o ∧
              ¬(o.queue = [] ∧ o.live = false) := by
            simpa only [not_forall, exists_prop] using hend
          cases hqueue : o.queue with
          | nil =>
            have hlive : o.live = true := by simpa [hqueue] using hmore
            rw [turn?_of_waiting ho hqueue hlive] at hturn
            cases hturn
          | cons chunk rest =>
            rw [turn?_of_chunk hsending ho hqueue] at hturn
            cases through with
            | true =>
              cases hturn
              rw [hsame]
              exact .send he hsending ho hqueue
            | false =>
              cases hturn
              exact .lose he hsending ho hqueue

section Frame

variable {r r' : Room} {register events : List SocketEvent} {n : Nat}

/-- No socket is ever closed to the register, and nothing is entered of one that was not there. -/
theorem ends_of_moves (hm : r.Moves events r') (hn : r'.ends n = none) :
    r.ends n = none ∧ ∀ e ∈ events, e.socket ≠ n := by
  -- in each case there is a socket where the ends have changed, and where something is entered
  have hupdate : ∀ {m : Nat} {x : SocketEnd}, Function.update r.ends m (some x) n = none →
      r.ends n = none ∧ m ≠ n := by
    intro m x h
    rw [Function.update_apply] at h
    split at h
    · cases h
    · rename_i hne
      exact ⟨h, Ne.symm hne⟩
  have hthere : ∀ {m : Nat} {x : SocketEnd}, r.ends m = some x → r.ends n = none → m ≠ n := by
    rintro m x hx hnone rfl
    rw [hx] at hnone
    cases hnone
  cases hm with
  | stays | close => exact ⟨hn, by simp⟩
  | joinProducer | joinFollower => exact ⟨(hupdate hn).1, by simp⟩
  | produce | pass | leave | lose | finish => exact ⟨(hupdate hn).1, by simpa using (hupdate hn).2⟩
  | ignore he | send he => exact ⟨hn, by simpa using hthere he hn⟩

/-- The log is the one before, or a chunk has been appended to it, or some observer has joined, has
received or has left, or the log has been closed. -/
theorem log_of_moves {motive : Channel → Prop} (hm : r.Moves events r') (same : motive r.log)
    (append : ∀ chunk, motive (r.log.append chunk).1)
    (join : ∀ capacity reading, motive (r.log.join capacity reading).1)
    (leave : ∀ i, motive (r.log.leave i))
    (receive : ∀ i, motive (r.log.receive i (some 1)).1)
    (lose : ∀ i, motive ((r.log.receive i (some 1)).1.leave i))
    (close : ∀ log, r.log.close? = some log → motive log) : motive r'.log := by
  cases hm with
  | stays | joinProducer | pass | ignore => exact same
  | produce => exact append _
  | joinFollower => exact join _ _
  | leave => exact leave _
  | send | finish => exact receive _
  | lose => exact lose _
  | close hclose => exact close _ hclose

theorem sound_of_moves (hm : r.Moves events r') (h : r.log.Sound) : r'.log.Sound :=
  log_of_moves hm h h.append h.join h.leave (fun i => h.receive i _)
    (fun i => (h.receive i _).leave i) fun _ hclose => h.close hclose

theorem keeps_of_moves (hm : r.Moves events r') : r.log.Keeps r'.log :=
  log_of_moves hm (.refl _) (.append _) (.join _) (.leave _) (.receive _ · _)
    (fun i => (Channel.Keeps.receive _ i _).trans (.leave _ i)) fun _ hclose => .close hclose

/-- A history only grows, and that of a closed log stays as it is. -/
theorem history_of_moves (hm : r.Moves events r') :
    r.log.history <+: r'.log.history ∧
      (r.log.closed = true → r'.log.closed = true ∧ r'.log.history = r.log.history) := by
  refine log_of_moves (motive := fun log => r.log.history <+: log.history ∧
    (r.log.closed = true → log.closed = true ∧ log.history = r.log.history)) hm
    ⟨List.prefix_refl _, fun h => ⟨h, rfl⟩⟩ ?_ (fun _ _ => ⟨List.prefix_refl _, fun h => ⟨h, rfl⟩⟩)
    (fun _ => ⟨List.prefix_refl _, fun h => ⟨h, rfl⟩⟩) ?_ ?_ ?_
  -- only an append makes the log longer, and none does once it is closed
  · intro chunk
    unfold Channel.append
    split
    · exact ⟨List.prefix_refl _, fun h => ⟨h, rfl⟩⟩
    · rename_i hopen
      exact ⟨List.prefix_append _ _, fun h => absurd h hopen⟩
  · intro i
    unfold Channel.receive
    split <;> exact ⟨List.prefix_refl _, fun h => ⟨h, rfl⟩⟩
  · intro i
    unfold Channel.receive
    split <;> exact ⟨List.prefix_refl _, fun h => ⟨h, rfl⟩⟩
  · intro log hclose
    refine ⟨(Channel.history_close hclose).symm ▸ List.prefix_refl _, fun hclosed => ?_⟩
    simp [Channel.close?, hclosed] at hclose

end Frame

end Room

end BuildBroker.Log
