import Mathlib.Data.List.Infix
import BuildBroker.Proofs.Log.FanOut

/-!
# How Far Observers Fall Behind

The queue of an observer that subscribes has room for the log as it is then and for a backlog. What
the observer has received takes up no room, so the more it has received of the old chunks, the more
room there is for late ones.

Main statements:
- `Observer.Next`: the ways in which a step changes one observer.
- `Observer.Subscribed`: what stays true of an observer that has subscribed.
- `Observer.Subscribed.length_late_le`, `Observer.Subscribed.cut_iff`: how many late chunks can be
  queued, and which append cuts the observer off.
- `Desk.keeping_up`: nobody is cut off by an append with less than a backlog of late chunks queued.
- `Desk.backlog_of_reader`: how many late chunks can be queued for who has received old ones.
-/

namespace BuildBroker.Log

/-! ## §1 One Observer -/

namespace Observer

/-- The ways in which a step at a log changes one observer. -/
inductive Next (o : Observer) : Observer → Prop where
  | same : Next o o
  | offered (chunk : Bytes) : Next o (o.offer chunk)
  | received (limit : Nat) : Next o (o.receive limit)
  | cutOff : Next o o.cutOff
  /-- It stops reading. -/
  | left : Next o { o with reading := false }

/-- The queued chunks that come after the first so many of the log: chunks are queued in order, so
these are all but what has not been received of the first ones. -/
def late (n : Nat) (o : Observer) : List Bytes :=
  o.queue.drop (n - o.taken.length)

/-- What is queued for an observer that has joined a log with some old chunks: what it has not
received of these, and after it the first of the later chunks that it has not received. -/
structure Awaits (old later : List Bytes) (o : Observer) : Prop where
  queue : o.queue = old.drop o.taken.length ++ o.late old.length
  late : o.late old.length <+: later.drop (o.taken.length - old.length)

/-- An observer that has subscribed to a log with some old chunks. Its queue has room for these and a
backlog, and it has been sent all of them. -/
structure Subscribed (old : List Bytes) (o : Observer) : Prop where
  capacity : o.capacity = old.length + backlog
  history : old <+: o.sent
  room : o.queue.length ≤ o.capacity

/-- Where there is room for all of it, a replay puts all of it into the queue. -/
theorem replay_of_room {chunks : List Bytes} {o : Observer} (hread : o.reading = true)
    (hroom : o.queue.length + chunks.length ≤ o.capacity) :
    o.replay chunks = ({ o with queue := o.queue ++ chunks }, true) := by
  induction chunks generalizing o with
  | nil => simp [replay]
  | cons chunk rest ih =>
    simp only [List.length_cons] at hroom
    simp only [replay, send?_of_room chunk hread (by omega)]
    -- the chunk is queued, and the rest behind it
    have hrest := @ih { o with queue := o.queue ++ [chunk] } hread
      (by simp only [List.length_append, List.length_singleton]; omega)
    rw [hrest, List.append_assoc, List.singleton_append]

theorem joining_of_room {history : List Bytes} {capacity : Nat} (closed : Bool)
    (hroom : history.length ≤ capacity) :
    joining history closed capacity true = ⟨capacity, history, [], true, !closed⟩ := by
  simp only [joining]
  rw [replay_of_room rfl (by simpa using hroom)]
  simp

/-- A live observer that reads is sent a chunk if there is room for it, and cut off if not. -/
theorem offer_eq {o : Observer} (chunk : Bytes) (hlive : o.live = true) (hread : o.reading = true) :
    o.offer chunk = if o.queue.length < o.capacity then { o with queue := o.queue ++ [chunk] }
      else o.cutOff := by
  unfold offer send?
  by_cases hroom : o.queue.length < o.capacity <;> simp [hlive, hread, hroom, cutOff]

namespace Subscribed

variable {old later : List Bytes} {o o' : Observer}

theorem of_joining (history : List Bytes) (closed : Bool) :
    (joining history closed (history.length + backlog) true).Subscribed history := by
  rw [joining_of_room closed (Nat.le_add_right _ _)]
  exact ⟨rfl, List.prefix_refl _, Nat.le_add_right _ _⟩

theorem offer (h : o.Subscribed old) (chunk : Bytes) : (o.offer chunk).Subscribed old := by
  unfold Observer.offer
  split
  · exact h
  · cases hsend : o.send? chunk with
    | none => exact ⟨h.capacity, h.history, h.room⟩
    | some o' =>
      -- what is queued is old history, with the late chunks behind it
      have hsent : old <+: o'.sent := by
        rw [sent_of_send? hsend]
        exact h.history.trans (List.prefix_append _ _)
      -- it was queued, so there was room
      have hroom : o.queue.length < o.capacity := by
        unfold send? at hsend
        split at hsend
        · rename_i hfits
          simp only [Bool.and_eq_true, decide_eq_true_eq] at hfits
          exact hfits.2
        · cases hsend
      obtain rfl := eq_of_send? hsend
      refine ⟨h.capacity, hsent, ?_⟩
      simp only [Option.getD_some, List.length_append, List.length_singleton]
      omega

/-- Every change of an observer keeps this. -/
theorem of_next (h : o.Subscribed old) (hnext : o.Next o') : o'.Subscribed old := by
  cases hnext with
  | same => exact h
  | offered chunk => exact h.offer chunk
  | received limit =>
    have hshorter : (o.receive limit).queue.length ≤ o.queue.length := by simp [receive]
    exact ⟨h.capacity, by rw [sent_receive]; exact h.history, Nat.le_trans hshorter h.room⟩
  | cutOff | left => exact ⟨h.capacity, h.history, h.room⟩

/-- What is queued is what is left of the old chunks, and then the late ones. -/
theorem queue_eq (h : o.Subscribed old) :
    o.queue = old.drop o.taken.length ++ o.late old.length := by
  obtain ⟨rest, hrest⟩ := h.history
  -- either all old chunks have been received, or the queue begins with the others
  rcases List.append_eq_append_iff.mp hrest with ⟨more, htaken, -⟩ | ⟨unread, rfl, hqueue⟩
  · have hlong : old.length ≤ o.taken.length := by simp [htaken]
    rw [late, List.drop_eq_nil_of_le hlong, Nat.sub_eq_zero_of_le hlong]
    rfl
  · simp [late, hqueue]

theorem awaits (h : o.Subscribed old) (hsent : o.sent <+: old ++ later) :
    o.Awaits old later := by
  refine ⟨h.queue_eq, ?_⟩
  -- what comes after both the old chunks and the received ones
  have hrest := hsent.drop (max old.length o.taken.length)
  rw [sent, List.drop_append, List.drop_append, List.drop_eq_nil_of_le (Nat.le_max_right _ _),
    List.drop_eq_nil_of_le (Nat.le_max_left _ _), List.nil_append, List.nil_append,
    show max old.length o.taken.length - o.taken.length = old.length - o.taken.length by omega,
    show max old.length o.taken.length - old.length = o.taken.length - old.length by omega] at hrest
  exact hrest

/-- The late chunks take up the room that is not needed for what is left of the old ones. -/
theorem length_late (h : o.Subscribed old) :
    o.queue.length + min old.length o.taken.length =
      old.length + (o.late old.length).length := by
  -- the queue is what is left of the old chunks and the late ones, so count them
  have hlength := congrArg List.length h.queue_eq
  simp only [List.length_append, List.length_drop] at hlength
  omega

/-- At most a backlog of late chunks is queued, and as many more as old ones have been received. -/
theorem length_late_le (h : o.Subscribed old) :
    (o.late old.length).length ≤ backlog + min old.length o.taken.length := by
  have hlate := h.length_late
  have hroom := h.room
  rw [h.capacity] at hroom
  omega

/-- An append cuts off an observer that reads exactly if so many late chunks are queued. -/
theorem cut_iff (h : o.Subscribed old) (chunk : Bytes) (hlive : o.live = true)
    (hread : o.reading = true) :
    (o.offer chunk).live = false ↔
      (o.late old.length).length = backlog + min old.length o.taken.length := by
  have hlate := h.length_late
  have hroom := h.room
  rw [h.capacity] at hroom
  rw [offer_eq chunk hlive hread, h.capacity]
  split
  · simp only [hlive, Bool.true_eq_false, false_iff]
    omega
  · simp only [cutOff, true_iff]
    omega

end Subscribed

end Observer

/-! ## §2 Runs -/

namespace Desk

/-- What one step does to an observer that has joined. -/
theorem next_advance {d : Desk} {i : Nat} {o : Observer} (ho : d.channel.observers[i]? = some o)
    (s : DeskStep) : ∃ o', (d.advance s).channel.observers[i]? = some o' ∧ o.Next o' := by
  have hlt : i < d.channel.observers.length := (List.getElem?_eq_some_iff.mp ho).1
  rw [channel_advance]
  cases s with
  | append chunk =>
    cases hclosed : d.channel.closed with
    | true => exact ⟨o, by simpa [Channel.append, hclosed] using ho, .same⟩
    | false => exact ⟨o.offer chunk, by simp [Channel.append, hclosed, ho], .offered chunk⟩
  | close =>
    cases hclosed : d.channel.closed with
    | true => exact ⟨o, by simpa [Channel.close?, hclosed] using ho, .same⟩
    | false => exact ⟨o.cutOff, by simp [Channel.close?, hclosed, ho], .cutOff⟩
  | receive j limit =>
    simp only [Channel.receive]
    split
    · exact ⟨o, ho, .same⟩
    · rename_i x hx
      by_cases hij : j = i
      · subst hij
        obtain rfl : x = o := Option.some.inj (hx.symm.trans ho)
        exact ⟨_, List.getElem?_set_self hlt, .received _⟩
      · exact ⟨o, by simpa [hij] using ho, .same⟩
  | leave j =>
    simp only [Channel.leave, List.getElem?_modify, ho]
    split
    · exact ⟨_, rfl, .left⟩
    · exact ⟨o, rfl, .same⟩
  | _ =>
    -- the other steps let observers join, behind those that are there
    exact joined_induction (motive := fun ch => ∃ o', ch.observers[i]? = some o' ∧ o.Next o') d _
      ⟨o, ho, .same⟩
      (fun _ _ => ⟨o, (List.getElem?_append_left hlt).trans ho, .same⟩)

/-- Whatever happens, an observer that has subscribed keeps what it was given. -/
theorem subscribed_run {d : Desk} {i : Nat} {o : Observer} {old : List Bytes}
    (ho : d.channel.observers[i]? = some o) (h : o.Subscribed old) (steps : List DeskStep) :
    ∃ o', (d.run steps).channel.observers[i]? = some o' ∧ o'.Subscribed old := by
  induction steps generalizing d o with
  | nil => exact ⟨o, ho, h⟩
  | cons s rest ih =>
    obtain ⟨o', ho', hnext⟩ := next_advance ho s
    exact ih ho' (h.of_next hnext)

/-- As long as there is room, a live observer that reads is sent everything that is appended. -/
theorem observer_of_appends {d : Desk} {i : Nat} {o : Observer} (chunks : List Bytes)
    (hopen : d.channel.closed = false) (ho : d.channel.observers[i]? = some o)
    (hlive : o.live = true) (hread : o.reading = true)
    (hroom : o.queue.length + chunks.length ≤ o.capacity) :
    (d.run (chunks.map .append)).channel.observers[i]? =
      some { o with queue := o.queue ++ chunks } := by
  induction chunks generalizing d o with
  | nil => simpa [run] using ho
  | cons chunk rest ih =>
    simp only [List.length_cons] at hroom
    -- the first append takes up one place, and the others find one place less
    have hchannel : (d.advance (.append chunk)).channel = { d.channel with
        history := d.channel.history ++ [chunk]
        observers := d.channel.observers.map (Observer.offer chunk) } := by
      rw [channel_advance]
      simp [Channel.append, hopen]
    have ho' : (d.advance (.append chunk)).channel.observers[i]? =
        some { o with queue := o.queue ++ [chunk] } := by
      rw [hchannel, List.getElem?_map, ho, Option.map_some,
        Observer.offer_eq chunk hlive hread, if_pos (by omega)]
    have hrest := ih (d := d.advance (.append chunk)) (o := { o with queue := o.queue ++ [chunk] })
      (by rw [hchannel]; exact hopen) ho' hlive hread
      (by simp only [List.length_append, List.length_singleton]; omega)
    rw [List.append_assoc, List.singleton_append] at hrest
    exact hrest

/-! ### Subscriptions -/

section Subscriptions

/-- The number that the next observer gets after some steps at a fresh log. -/
def nextNumber (before : List DeskStep) : Nat :=
  (empty.run before).channel.observers.length

/-- The observer that subscribes after some steps at a fresh log, as further steps leave it. -/
def subscriber? (before after : List DeskStep) : Option Observer :=
  (empty.run (before ++ .subscribe :: after)).channel.observers[nextNumber before]?

/-- The chunks that are accepted after a subscription. -/
def acceptedSince (before after : List DeskStep) : List Bytes :=
  ((empty.run before).advance .subscribe).accepted after

variable (before after : List DeskStep)

theorem run_subscription :
    empty.run (before ++ .subscribe :: after) =
      ((empty.run before).advance .subscribe).run after :=
  run_append empty before (.subscribe :: after)

theorem history_run_empty : (empty.run before).channel.history = empty.accepted before := by
  rw [history_run]
  rfl

/-- What is accepted in a run with a subscription: the old chunks and the later ones. -/
theorem accepted_subscription :
    empty.accepted (before ++ .subscribe :: after) =
      empty.accepted before ++ acceptedSince before after := by
  rw [← history_run_empty, run_subscription, history_run, history_advance, history_run_empty]
  simp [accepts, acceptedSince]

/-- Who has just subscribed has the whole log queued. -/
theorem subscriber?_nil :
    subscriber? before [] = some ⟨(empty.accepted before).length + backlog, empty.accepted before,
      [], true, !(empty.run before).channel.closed⟩ := by
  rw [subscriber?, run_subscription, ← history_run_empty before,
    ← Observer.joining_of_room _ (Nat.le_add_right _ _)]
  exact List.getElem?_concat_length

/-- Whatever comes after a subscription, the observer is there and has been sent the old chunks. -/
theorem exists_subscriber? :
    ∃ o, subscriber? before after = some o ∧ o.Subscribed (empty.accepted before) := by
  have hjoined := subscriber?_nil before
  rw [subscriber?, run_subscription, ← Observer.joining_of_room _ (Nat.le_add_right _ _)] at hjoined
  obtain ⟨o, ho, h⟩ := subscribed_run hjoined (.of_joining _ _) after
  refine ⟨o, ?_, h⟩
  rw [subscriber?, run_subscription]
  exact ho

theorem awaits_of_subscriber? {o : Observer} (ho : subscriber? before after = some o)
    (h : o.Subscribed (empty.accepted before)) :
    o.Awaits (empty.accepted before) (acceptedSince before after) := by
  apply h.awaits
  rw [← accepted_subscription]
  exact (follows_run ho).beginning

/-- An append after all the other steps reaches a live observer. -/
theorem subscriber?_append {o : Observer} (ho : subscriber? before after = some o)
    (hlive : o.live = true) (chunk : Bytes) :
    subscriber? before (after ++ [.append chunk]) = some (o.offer chunk) := by
  rw [subscriber?, run_subscription] at ho ⊢
  generalize hd : ((empty.run before).advance .subscribe).run after = d at ho
  have hsound : d.channel.Sound := by
    rw [← hd, ← run_subscription]
    exact sound_run Channel.sound_empty _
  -- nobody is live at a closed log
  have hopen : d.channel.closed = false := by
    by_contra hclosed
    have hquiet := hsound.quiet (by simpa using hclosed) o (List.mem_of_getElem? ho)
    rw [hlive] at hquiet
    cases hquiet
  rw [run_append, hd]
  show (d.advance (.append chunk)).channel.observers[nextNumber before]? = _
  rw [channel_advance]
  simp [Channel.append, hopen, ho]

/-- An observer that receives some of the old chunks and no more is still sent to when a backlog of
late chunks is queued, and as many more as it has received old ones. -/
theorem subscriber?_of_slow_reader {n : Nat} {chunks : List Bytes}
    (hopen : (empty.run before).channel.closed = false) (hn : n ≤ (empty.accepted before).length)
    (hchunks : chunks.length = backlog + n) :
    subscriber? before (.receive (nextNumber before) (some n) :: chunks.map .append) =
      some ⟨(empty.accepted before).length + backlog, (empty.accepted before).drop n ++ chunks,
        (empty.accepted before).take n, true, true⟩ := by
  have hjoined := subscriber?_nil before
  rw [subscriber?, run_subscription, hopen] at hjoined
  rw [subscriber?, run_subscription]
  generalize hd : ((empty.run before).advance .subscribe).run [] = d at hjoined
  have hopen' : d.channel.closed = false := by
    rw [← hd]
    exact hopen
  -- what is received makes room for as many of the chunks that follow
  have hreceived : (d.advance (.receive (nextNumber before) (some n))).channel = { d.channel with
      observers := d.channel.observers.set (nextNumber before)
        ⟨(empty.accepted before).length + backlog, (empty.accepted before).drop n,
          (empty.accepted before).take n, true, true⟩ } := by
    rw [channel_advance]
    simp [Channel.receive, hjoined, Observer.receive]
  have hsent := observer_of_appends (d := d.advance (.receive (nextNumber before) (some n)))
    (i := nextNumber before) chunks (by rw [hreceived]; exact hopen')
    (by rw [hreceived]; exact List.getElem?_set_self (List.getElem?_eq_some_iff.mp hjoined).1)
    rfl rfl (by simp only [List.length_drop]; omega)
  rw [← hd] at hsent
  exact hsent

/-! ### Main statements -/

/-- **Who keeps up is not cut off.** Who subscribes gets the whole log queued, and never loses any of
it. What is queued later is what has not been received of the old chunks, and then late ones; and an
append cuts off an observer that reads only if at least a backlog of late chunks is queued then. -/
theorem keeping_up :
    (∃ o, subscriber? before [] = some o ∧ o.taken = [] ∧ o.queue = empty.accepted before ∧
      (o.live = true ↔ (empty.run before).channel.closed = false)) ∧
    ∃ o, subscriber? before after = some o ∧ empty.accepted before <+: o.taken ++ o.queue ∧
      o.Awaits (empty.accepted before) (acceptedSince before after) ∧
      ∀ chunk o', o.live = true → o.reading = true →
        subscriber? before (after ++ [.append chunk]) = some o' → o'.live = false →
        backlog ≤ (o.late (empty.accepted before).length).length := by
  refine ⟨⟨_, subscriber?_nil before, rfl, rfl, by simp⟩, ?_⟩
  obtain ⟨o, ho, h⟩ := exists_subscriber? before after
  refine ⟨o, ho, h.history, awaits_of_subscriber? before after ho h, ?_⟩
  intro chunk o' hlive hread ho' hcut
  rw [subscriber?_append before after ho hlive chunk] at ho'
  obtain rfl := Option.some.inj ho'
  -- the queue is full, and the old chunks alone never fill it
  have hlate := (h.cut_iff chunk hlive hread).mp hcut
  omega

end Subscriptions

/-- A log with one chunk in it. -/
def oneChunk : List DeskStep := [.append [104]]

/-- The subscriber receives that chunk, and nothing of all that is appended afterwards. -/
def lateChunks : List DeskStep :=
  .receive 0 (some 1) :: (List.replicate (backlog + 1) ([120] : Bytes)).map .append

/-- The subscriber when all these are queued for it. -/
def lateReader : Observer :=
  ⟨1 + backlog, List.replicate (backlog + 1) [120], [[104]], true, true⟩

theorem subscriber?_lateChunks : subscriber? oneChunk lateChunks = some lateReader :=
  subscriber?_of_slow_reader oneChunk (n := 1) (by decide) (by decide) List.length_replicate

/-- One more chunk cuts the subscriber off, which then has more than a backlog of late ones queued. -/
theorem keeping_up_lateReader :
    subscriber? oneChunk (lateChunks ++ [.append [121]]) = some lateReader.cutOff ∧
      backlog ≤ (lateReader.late 1).length := by
  have hcut : lateReader.offer [121] = lateReader.cutOff := by
    rw [Observer.offer_eq [121] rfl rfl, if_neg]
    simp [lateReader, Nat.add_comm]
  have hafter : subscriber? oneChunk (lateChunks ++ [.append [121]]) = some lateReader.cutOff :=
    hcut ▸ subscriber?_append oneChunk lateChunks subscriber?_lateChunks rfl [121]
  obtain ⟨-, o, ho, -, -, hkept⟩ := keeping_up oneChunk lateChunks
  obtain rfl : o = lateReader := Option.some.inj (ho.symm.trans subscriber?_lateChunks)
  exact ⟨hafter, hkept [121] _ rfl rfl hafter rfl⟩

/-- **How far a reader may fall behind.** At any time at most a backlog of late chunks is queued for an
observer that has subscribed, and as many more as it has received old ones; while it reads, the append
that finds so many cuts it off, and no other. So many late chunks are queued for an observer that
receives so many of the old chunks, and no more, while they are appended. -/
theorem backlog_of_reader (before after : List DeskStep) :
    (∃ o, subscriber? before after = some o ∧
      o.Awaits (empty.accepted before) (acceptedSince before after) ∧
      (o.late (empty.accepted before).length).length ≤
        backlog + min (empty.accepted before).length o.taken.length ∧
      ∀ chunk, o.live = true → o.reading = true →
        ∃ o', subscriber? before (after ++ [.append chunk]) = some o' ∧
          (o'.live = false ↔ (o.late (empty.accepted before).length).length =
            backlog + min (empty.accepted before).length o.taken.length)) ∧
    ∀ n chunks, (empty.run before).channel.closed = false → n ≤ (empty.accepted before).length →
      chunks.length = backlog + n →
      ∃ o, subscriber? before (.receive (nextNumber before) (some n) :: chunks.map .append) = some o ∧
        o.live = true ∧ o.reading = true ∧ o.late (empty.accepted before).length = chunks := by
  refine ⟨?_, ?_⟩
  · obtain ⟨o, ho, h⟩ := exists_subscriber? before after
    refine ⟨o, ho, awaits_of_subscriber? before after ho h, h.length_late_le, ?_⟩
    intro chunk hlive hread
    exact ⟨_, subscriber?_append before after ho hlive chunk, h.cut_iff chunk hlive hread⟩
  · intro n chunks hopen hn hchunks
    refine ⟨_, subscriber?_of_slow_reader before hopen hn hchunks, rfl, rfl, ?_⟩
    simp [Observer.late, hn]

/-- A reader that has received the one old chunk is still sent to when one more than a backlog of late
ones is queued for it, and the append after that cuts it off. -/
theorem backlog_of_lateReader :
    subscriber? oneChunk lateChunks = some lateReader ∧ lateReader.live = true ∧
      (lateReader.late 1).length = backlog + 1 ∧
      ∃ o', subscriber? oneChunk (lateChunks ++ [.append [121]]) = some o' ∧ o'.live = false := by
  have hlate := (backlog_of_reader oneChunk []).2 1 (List.replicate (backlog + 1) [120])
    (by decide) (by decide) List.length_replicate
  obtain ⟨o, ho, hlive, hread, hchunks⟩ := hlate
  obtain ⟨o₁, ho₁, -, -, hcut⟩ := (backlog_of_reader oneChunk lateChunks).1
  obtain rfl : o = o₁ := Option.some.inj (ho.symm.trans ho₁)
  obtain rfl : o = lateReader := Option.some.inj (ho.symm.trans subscriber?_lateChunks)
  have hlength : (lateReader.late 1).length = backlog + 1 :=
    (congrArg List.length hchunks).trans List.length_replicate
  obtain ⟨o', ho', hiff⟩ := hcut [121] hlive hread
  exact ⟨ho, hlive, hlength, o', ho', hiff.mpr hlength⟩

end Desk

end BuildBroker.Log
