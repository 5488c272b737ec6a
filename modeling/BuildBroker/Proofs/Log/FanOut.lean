import BuildBroker.Log.Attach

/-!
# What Observers See of a Log

Whatever calls are made at a log, in whatever order, each observer is sent a beginning of what was
appended: nothing is left out, sent twice, joined together or sent out of order.

Main statements:
- `Observer.follows_joining`, `Observer.Follows.offer`: what one observer has been sent when it
  joins, and after each append.
- `Observer.live_offer_iff`, `Observer.live_joining_iff`: who is live after an append, and on
  joining.
- `Channel.Sound`: the invariant of a log, kept by every step (`Desk.sound_advance`).
- `Desk.fan_out`: received and queued chunks are a beginning of all that was appended, the whole of
  it for a live observer and for one that joined after the end with room enough, and they never
  change again once the observer has been cut off; and an observer stops being live when the log
  is closed, when its queue is full at an append, or when the log does not fit as it joins.
-/

namespace BuildBroker.Log

/-! ## §1 One Observer -/

/-- Whether a history can be replayed as a whole into a queue that is read or not. -/
def Fits (history : List Bytes) (capacity : Nat) (reading : Bool) : Prop :=
  history = [] ∨ reading = true ∧ history.length ≤ capacity

instance (history : List Bytes) (capacity : Nat) (reading : Bool) :
    Decidable (Fits history capacity reading) := by
  unfold Fits
  infer_instance

namespace Observer

/-- All that an observer has been sent: what it has received, and what is queued for it. -/
def sent (o : Observer) : List Bytes :=
  o.taken ++ o.queue

/-- The observer has been sent a beginning of a history, and all of it while it is live. -/
structure Follows (history : List Bytes) (o : Observer) : Prop where
  beginning : o.sent <+: history
  whole : o.live = true → o.sent = history

/-- Sending a chunk changes the queue alone. -/
theorem eq_of_send? {chunk : Bytes} {o o' : Observer} (h : o.send? chunk = some o') :
    o' = { o with queue := o.queue ++ [chunk] } := by
  unfold send? at h
  split at h
  · exact (Option.some.inj h).symm
  · cases h

theorem send?_of_room {o : Observer} (chunk : Bytes) (hread : o.reading = true)
    (hroom : o.queue.length < o.capacity) :
    o.send? chunk = some { o with queue := o.queue ++ [chunk] } := by
  simp [send?, hread, hroom]

theorem sent_of_send? {chunk : Bytes} {o o' : Observer} (h : o.send? chunk = some o') :
    o'.sent = o.sent ++ [chunk] := by
  rw [eq_of_send? h]
  simp [sent]

/-- A replay changes the queue alone. -/
theorem replay_eq (chunks : List Bytes) (o : Observer) :
    ∃ queue, (o.replay chunks).1 = { o with queue } := by
  induction chunks generalizing o with
  | nil => exact ⟨o.queue, rfl⟩
  | cons chunk rest ih =>
    unfold replay
    cases hsend : o.send? chunk with
    | none => exact ⟨o.queue, rfl⟩
    | some o' =>
      obtain ⟨queue, hqueue⟩ := ih o'
      exact ⟨queue, by rw [hqueue, eq_of_send? hsend]⟩

/-- A replay that stops half way has sent a beginning. -/
theorem sent_replay_prefix (chunks : List Bytes) (o : Observer) :
    (o.replay chunks).1.sent <+: o.sent ++ chunks := by
  induction chunks generalizing o with
  | nil => simp [replay]
  | cons chunk rest ih =>
    unfold replay
    cases hsend : o.send? chunk with
    | none => exact List.prefix_append _ _
    | some o' =>
      have hrest : (o'.replay rest).1.sent <+: o'.sent ++ rest := ih o'
      rw [sent_of_send? hsend, List.append_assoc] at hrest
      exact hrest

theorem sent_replay_of_whole {chunks : List Bytes} {o : Observer}
    (hwhole : (o.replay chunks).2 = true) : (o.replay chunks).1.sent = o.sent ++ chunks := by
  induction chunks generalizing o with
  | nil => simp [replay]
  | cons chunk rest ih =>
    unfold replay at hwhole ⊢
    cases hsend : o.send? chunk with
    | none => simp [hsend] at hwhole
    | some o' =>
      simp only [hsend] at hwhole
      have hrest : (o'.replay rest).1.sent = o'.sent ++ rest := ih hwhole
      rw [sent_of_send? hsend, List.append_assoc] at hrest
      exact hrest

/-- Where there is room for all of it, a replay goes to its end. -/
theorem replay_whole_of_room {chunks : List Bytes} {o : Observer} (hread : o.reading = true)
    (hroom : o.queue.length + chunks.length ≤ o.capacity) : (o.replay chunks).2 = true := by
  induction chunks generalizing o with
  | nil => rfl
  | cons chunk rest ih =>
    simp only [List.length_cons] at hroom
    unfold replay
    rw [send?_of_room chunk hread (by omega)]
    exact ih hread (by simp only [List.length_append, List.length_singleton]; omega)

/-- A replay goes to its end only where there is room for all of it. -/
theorem replay_whole_iff (chunks : List Bytes) (o : Observer) :
    (o.replay chunks).2 = true ↔
      chunks = [] ∨ o.reading = true ∧ o.queue.length + chunks.length ≤ o.capacity := by
  constructor
  · intro hwhole
    induction chunks generalizing o with
    | nil => exact .inl rfl
    | cons chunk rest ih =>
      unfold replay at hwhole
      cases hsend : o.send? chunk with
      | none => simp [hsend] at hwhole
      | some o' =>
        rw [hsend] at hwhole
        have hroom : o.reading = true ∧ o.queue.length < o.capacity := by
          unfold send? at hsend
          split at hsend
          · rename_i hroom
            simpa using hroom
          · cases hsend
        refine .inr ⟨hroom.1, ?_⟩
        -- either this was the last chunk, or the rest needs its room behind it
        rcases ih o' hwhole with hrest | ⟨-, hrest⟩
        · simp only [hrest, List.length_cons, List.length_nil]
          omega
        · rw [eq_of_send? hsend] at hrest
          simp only [List.length_append, List.length_cons, List.length_nil] at hrest ⊢
          omega
  · rintro (rfl | ⟨hread, hroom⟩)
    · rfl
    · exact replay_whole_of_room hread hroom

section Joining

variable {history : List Bytes} {closed reading : Bool} {capacity : Nat}

theorem taken_joining : (joining history closed capacity reading).taken = [] := by
  obtain ⟨queue, hqueue⟩ := replay_eq history ⟨capacity, [], [], reading, false⟩
  simp [joining, hqueue]

theorem sent_joining_of_room (hread : reading = true) (hroom : history.length ≤ capacity) :
    (joining history closed capacity reading).sent = history := by
  have hwhole : ((Observer.mk capacity [] [] reading false).replay history).2 = true :=
    replay_whole_of_room hread (by simpa using hroom)
  exact sent_replay_of_whole hwhole

theorem live_joining_of_closed : (joining history true capacity reading).live = false := by
  simp [joining]

/-- An observer that joins follows the history, even where the replay stopped half way. -/
theorem follows_joining : (joining history closed capacity reading).Follows history where
  beginning := sent_replay_prefix history _
  whole := by
    intro hlive
    have hwhole : ((Observer.mk capacity [] [] reading false).replay history).2 = true := by
      simp only [joining, Bool.and_eq_true] at hlive
      exact hlive.1
    exact sent_replay_of_whole hwhole

end Joining

/-- Who joins stays live exactly if the log is open and its history fits. -/
theorem live_joining_iff (history : List Bytes) (closed : Bool) (capacity : Nat) (reading : Bool) :
    (joining history closed capacity reading).live = true ↔
      closed = false ∧ Fits history capacity reading := by
  have hwhole := replay_whole_iff history (Observer.mk capacity [] [] reading false)
  simp only [List.length_nil, Nat.zero_add] at hwhole
  simp only [joining, Bool.and_eq_true, Bool.not_eq_true', hwhole, Fits]
  exact and_comm

/-- An observer that is not live is passed over. -/
theorem offer_of_not_live {o : Observer} (chunk : Bytes) (h : o.live = false) :
    o.offer chunk = o := by
  simp [offer, h]

/-- An append cuts a live observer off exactly if nobody reads or its queue is full. -/
theorem live_offer_iff (chunk : Bytes) (o : Observer) : (o.offer chunk).live = true ↔
    o.live = true ∧ o.reading = true ∧ o.queue.length < o.capacity := by
  cases hlive : o.live with
  | false => simp [offer, hlive]
  | true =>
    by_cases hsent : o.reading = true ∧ o.queue.length < o.capacity
    · simp [offer, send?_of_room chunk hsent.1 hsent.2, hlive, hsent]
    · have hnone : o.send? chunk = none := by simpa [send?] using hsent
      simp only [offer, hlive, hnone, Option.getD_none, hsent, and_false]
      simp

theorem taken_offer (chunk : Bytes) (o : Observer) : (o.offer chunk).taken = o.taken := by
  unfold offer
  split
  · rfl
  · cases hsend : o.send? chunk with
    | none => rfl
    | some o' => rw [eq_of_send? hsend]; rfl

/-- An append keeps every observer following: a live one is sent the chunk or cut off. -/
theorem Follows.offer {history : List Bytes} {o : Observer} (h : o.Follows history)
    (chunk : Bytes) : (o.offer chunk).Follows (history ++ [chunk]) := by
  have hbefore : o.sent <+: history ++ [chunk] := h.beginning.trans (List.prefix_append _ _)
  cases hlive : o.live with
  | false =>
    rw [offer_of_not_live chunk hlive]
    exact ⟨hbefore, fun hl => absurd hl (by simp [hlive])⟩
  | true =>
    cases hsend : o.send? chunk with
    | none =>
      -- the queue is full or nobody reads: this append is the one that cuts it off
      have hoffer : o.offer chunk = { o with live := false } := by
        simp [Observer.offer, hlive, hsend]
      rw [hoffer]
      exact ⟨hbefore, fun hl => absurd hl (by simp)⟩
    | some o' =>
      have hoffer : o.offer chunk = o' := by simp [Observer.offer, hlive, hsend]
      have hsent : o'.sent = history ++ [chunk] := by rw [sent_of_send? hsend, h.whole hlive]
      rw [hoffer]
      exact ⟨hsent ▸ List.prefix_refl _, fun _ => hsent⟩

@[simp] theorem sent_receive (limit : Nat) (o : Observer) : (o.receive limit).sent = o.sent := by
  simp [receive, sent]

theorem Follows.receive {history : List Bytes} {o : Observer} (h : o.Follows history)
    (limit : Nat) : (o.receive limit).Follows history :=
  ⟨by rw [sent_receive]; exact h.beginning, by rw [sent_receive]; exact h.whole⟩

theorem Follows.cutOff {history : List Bytes} {o : Observer} (h : o.Follows history) :
    o.cutOff.Follows history :=
  ⟨h.beginning, fun hl => absurd hl (by simp [Observer.cutOff])⟩

end Observer

/-! ## §2 One Log -/

namespace Channel

/-- Every observer follows the history, and none is live once the log is closed. -/
structure Sound (ch : Channel) : Prop where
  follows : ∀ o ∈ ch.observers, o.Follows ch.history
  quiet : ch.closed = true → ∀ o ∈ ch.observers, o.live = false

theorem sound_empty : empty.Sound :=
  ⟨by simp [empty], by simp [empty]⟩

namespace Sound

variable {ch : Channel}

theorem append (h : ch.Sound) (chunk : Bytes) : (ch.append chunk).1.Sound := by
  unfold Channel.append
  split
  · exact h
  · rename_i hopen
    refine ⟨?_, fun hclosed => absurd hclosed hopen⟩
    intro o ho
    obtain ⟨o₀, ho₀, rfl⟩ := List.mem_map.mp ho
    exact (h.follows o₀ ho₀).offer chunk

theorem join (h : ch.Sound) (capacity : Nat) (reading : Bool) :
    (ch.join capacity reading).1.Sound := by
  refine ⟨?_, ?_⟩
  · intro o ho
    rcases List.mem_append.mp ho with hold | hnew
    · exact h.follows o hold
    · rw [List.mem_singleton.mp hnew]
      exact Observer.follows_joining
  · intro hclosed o ho
    rcases List.mem_append.mp ho with hold | hnew
    · exact h.quiet hclosed o hold
    · rw [List.mem_singleton.mp hnew, show ch.closed = true from hclosed]
      exact Observer.live_joining_of_closed

theorem close {ch' : Channel} (h : ch.Sound) (hclose : ch.close? = some ch') : ch'.Sound := by
  unfold Channel.close? at hclose
  split at hclose
  · cases hclose
  · cases hclose
    refine ⟨?_, ?_⟩
    · intro o ho
      obtain ⟨o₀, ho₀, rfl⟩ := List.mem_map.mp ho
      exact (h.follows o₀ ho₀).cutOff
    · intro _ o ho
      obtain ⟨o₀, _, rfl⟩ := List.mem_map.mp ho
      rfl

theorem leave (h : ch.Sound) (i : Nat) : (ch.leave i).Sound := by
  -- nobody reads for the observer any more, but what it was sent and whether it is live stay
  have hold : ∀ o ∈ (ch.leave i).observers, ∃ o₀ ∈ ch.observers,
      o.sent = o₀.sent ∧ o.live = o₀.live := by
    intro o ho
    obtain ⟨j, hj⟩ := List.mem_iff_getElem?.mp ho
    simp only [Channel.leave, List.getElem?_modify] at hj
    obtain ⟨o₀, ho₀, rfl⟩ := Option.map_eq_some_iff.mp hj
    refine ⟨o₀, List.mem_of_getElem? ho₀, ?_⟩
    split <;> exact ⟨rfl, rfl⟩
  refine ⟨?_, ?_⟩
  · intro o ho
    obtain ⟨o₀, ho₀, hsent, hlive⟩ := hold o ho
    have hf := h.follows o₀ ho₀
    exact ⟨hsent ▸ hf.beginning, fun hl => hsent ▸ hf.whole (hlive ▸ hl)⟩
  · intro hclosed o ho
    obtain ⟨o₀, ho₀, _, hlive⟩ := hold o ho
    rw [hlive]
    exact h.quiet hclosed o₀ ho₀

theorem receive (h : ch.Sound) (i : Nat) (limit : Option Nat) :
    (ch.receive i limit).1.Sound := by
  unfold Channel.receive
  cases hi : ch.observers[i]? with
  | none => exact h
  | some o₀ =>
    have hmem : o₀ ∈ ch.observers := List.mem_of_getElem? hi
    refine ⟨?_, ?_⟩
    · intro o ho
      rcases List.mem_or_eq_of_mem_set ho with hold | rfl
      · exact h.follows o hold
      · exact (h.follows o₀ hmem).receive _
    · intro hclosed o ho
      rcases List.mem_or_eq_of_mem_set ho with hold | rfl
      · exact h.quiet hclosed o hold
      · exact h.quiet hclosed o₀ hmem

end Sound

/-- An append records its chunk exactly if it is accepted. -/
theorem history_append (ch : Channel) (chunk : Bytes) :
    (ch.append chunk).1.history = ch.history ++ if (ch.append chunk).2 then [chunk] else [] := by
  unfold append
  split <;> simp

theorem history_close {ch ch' : Channel} (h : ch.close? = some ch') :
    ch'.history = ch.history := by
  unfold close? at h
  split at h
  · cases h
  · cases h; rfl

theorem history_receive (ch : Channel) (i : Nat) (limit : Option Nat) :
    (ch.receive i limit).1.history = ch.history := by
  unfold receive
  split <;> rfl

/-- The chunks that an observer has received; none before it has joined. -/
def takenBy (ch : Channel) (i : Nat) : List Bytes :=
  ((ch.observers[i]?).map (·.taken)).getD []

/-- What a receive answers is what is added to the chunks received. -/
theorem takenBy_receive (ch : Channel) (i j : Nat) (limit : Option Nat) :
    (ch.receive j limit).1.takenBy i
      = ch.takenBy i ++ if j = i then (ch.receive j limit).2.chunks else [] := by
  unfold receive takenBy
  cases hj : ch.observers[j]? with
  | none => simp
  | some o =>
    by_cases hij : j = i
    · subst hij
      have hlt : j < ch.observers.length := (List.getElem?_eq_some_iff.mp hj).1
      have hget : ch.observers[j] = o := (List.getElem?_eq_some_iff.mp hj).2
      simp [hlt, hget, Observer.receive]
    · simp [hij]

theorem takenBy_join (ch : Channel) (i capacity : Nat) (reading : Bool) :
    (ch.join capacity reading).1.takenBy i = ch.takenBy i := by
  unfold join takenBy
  rcases Nat.lt_trichotomy i ch.observers.length with hlt | rfl | hgt
  · simp [List.getElem?_append_left hlt]
  · simp [Observer.taken_joining]
  · rw [List.getElem?_eq_none (by simp; omega), List.getElem?_eq_none (by omega)]

theorem closed_receive (ch : Channel) (i : Nat) (limit : Option Nat) :
    (ch.receive i limit).1.closed = ch.closed := by
  unfold receive
  split <;> rfl

section Kept

variable (ch : Channel) (j : Nat) {i : Nat} {o : Observer} (ho : ch.observers[i]? = some o)
include ho

/-- Receiving changes neither who is live nor what anybody has been sent. -/
theorem kept_receive (limit : Option Nat) :
    ∃ o', (ch.receive j limit).1.observers[i]? = some o' ∧ o'.live = o.live ∧ o'.sent = o.sent := by
  unfold receive
  cases hj : ch.observers[j]? with
  | none => exact ⟨o, ho, rfl, rfl⟩
  | some o₀ =>
    by_cases hij : j = i
    · subst hij
      obtain rfl : o₀ = o := Option.some.inj (hj.symm.trans ho)
      have hlt : j < ch.observers.length := (List.getElem?_eq_some_iff.mp ho).1
      exact ⟨o₀.receive (limit.getD o₀.queue.length), by simp [hlt], rfl,
        Observer.sent_receive _ _⟩
    · exact ⟨o, by simp [hij, ho], rfl, rfl⟩

theorem kept_leave :
    ∃ o', (ch.leave j).observers[i]? = some o' ∧ o'.live = o.live ∧ o'.sent = o.sent := by
  unfold leave
  rw [List.getElem?_modify, ho]
  split
  · exact ⟨{ o with reading := false }, rfl, rfl, rfl⟩
  · exact ⟨o, rfl, rfl, rfl⟩

end Kept

/-- An observer that is no longer live stays so, and is sent nothing more. -/
def Keeps (ch ch' : Channel) : Prop :=
  ∀ (i : Nat) (o : Observer), ch.observers[i]? = some o → o.live = false →
    ∃ o', ch'.observers[i]? = some o' ∧ o'.live = false ∧ o'.sent = o.sent

namespace Keeps

theorem refl (ch : Channel) : ch.Keeps ch :=
  fun _ o ho hlive => ⟨o, ho, hlive, rfl⟩

theorem trans {a b c : Channel} (hab : a.Keeps b) (hbc : b.Keeps c) : a.Keeps c := by
  intro i o ho hlive
  obtain ⟨o₁, ho₁, hlive₁, hsent₁⟩ := hab i o ho hlive
  obtain ⟨o₂, ho₂, hlive₂, hsent₂⟩ := hbc i o₁ ho₁ hlive₁
  exact ⟨o₂, ho₂, hlive₂, hsent₂.trans hsent₁⟩

theorem append (ch : Channel) (chunk : Bytes) : ch.Keeps (ch.append chunk).1 := by
  intro i o ho hlive
  unfold Channel.append
  split
  · exact ⟨o, ho, hlive, rfl⟩
  · refine ⟨o, ?_, hlive, rfl⟩
    rw [List.getElem?_map, ho, Option.map_some, Observer.offer_of_not_live chunk hlive]

theorem join (ch : Channel) (capacity : Nat) (reading : Bool) :
    ch.Keeps (ch.join capacity reading).1 := by
  intro i o ho hlive
  have hlt : i < ch.observers.length := (List.getElem?_eq_some_iff.mp ho).1
  exact ⟨o, (List.getElem?_append_left hlt).trans ho, hlive, rfl⟩

theorem close {ch ch' : Channel} (hclose : ch.close? = some ch') : ch.Keeps ch' := by
  intro i o ho hlive
  unfold Channel.close? at hclose
  split at hclose
  · cases hclose
  · cases hclose
    exact ⟨o.cutOff, by simp [ho], rfl, rfl⟩

theorem leave (ch : Channel) (i : Nat) : ch.Keeps (ch.leave i) := by
  intro j o ho hlive
  obtain ⟨o', ho', hsame, hsent⟩ := ch.kept_leave i ho
  exact ⟨o', ho', hsame.trans hlive, hsent⟩

theorem receive (ch : Channel) (i : Nat) (limit : Option Nat) :
    ch.Keeps (ch.receive i limit).1 := by
  intro j o ho hlive
  obtain ⟨o', ho', hsame, hsent⟩ := ch.kept_receive i ho limit
  exact ⟨o', ho', hsame.trans hlive, hsent⟩

end Keeps

end Channel

/-! ## §3 All Calls at a Log -/

namespace Desk

/-- The queue with which a step lets an observer join, if it does: its capacity, and whether anybody
reads it. -/
def joins? (d : Desk) : DeskStep → Option (Nat × Bool)
  | .subscribe => some (d.channel.history.length + backlog, true)
  | .register i =>
    match d.calls[i]? with
    | some ⟨capacity, reading, .watching⟩ => some (capacity, reading)
    | _ => none
  | _ => none

/-- The log after a step that does no more than let an observer join, if that. -/
def joined (d : Desk) (s : DeskStep) : Channel :=
  match d.joins? s with
  | some (capacity, reading) => (d.channel.join capacity reading).1
  | none => d.channel

/-- What a step does to the log; all the rest of a desk only decides when calls return. -/
theorem channel_advance (d : Desk) (s : DeskStep) :
    (d.advance s).channel =
      match s with
      | .append chunk => (d.channel.append chunk).1
      | .close => d.channel.close?.getD d.channel
      | .receive i limit => (d.channel.receive i limit).1
      | .leave i => d.channel.leave i
      | s => d.joined s := by
  unfold advance
  -- a step that is not possible leaves the desk as it is, and its log too
  cases s with
  | append chunk => rfl
  | subscribe => rfl
  | attach capacity => rfl
  | receive i limit => rfl
  | leave i => rfl
  | forsake i =>
    simp only [step?, joined, joins?]
    split <;> rfl
  | register i =>
    simp only [step?, joined, joins?]
    cases d.calls[i]? with
    | none => rfl
    | some call =>
      obtain ⟨capacity, reading, stage⟩ := call
      cases stage <;> rfl
  | resume i =>
    simp only [step?, joined, joins?]
    split
    · split <;> rfl
    · rfl
  | cancel i =>
    simp only [step?, joined, joins?]
    split <;> rfl
  | close =>
    simp only [step?]
    cases d.channel.close? <;> rfl
  | announce =>
    simp only [step?, joined, joins?]
    split <;> rfl

/-- The desk after some steps; a step that is not possible is passed over. -/
def run (d : Desk) (steps : List DeskStep) : Desk :=
  steps.foldl advance d

theorem run_append (d : Desk) (before after : List DeskStep) :
    d.run (before ++ after) = (d.run before).run after :=
  List.foldl_append

/-! ### What is observed of a step, and of a run -/

/-- The chunk that a step appends, if the log accepts it. -/
def accepts (d : Desk) : DeskStep → List Bytes
  | .append chunk => if (d.channel.append chunk).2 then [chunk] else []
  | _ => []

/-- The chunks that an observer receives in a step. -/
def receives (d : Desk) (i : Nat) : DeskStep → List Bytes
  | .receive j limit => if j = i then (d.channel.receive j limit).2.chunks else []
  | _ => []

/-- The chunks whose appends were accepted in a run, in their order. -/
def accepted (d : Desk) : List DeskStep → List Bytes
  | [] => []
  | s :: rest => d.accepts s ++ accepted (d.advance s) rest

/-- The chunks that an observer receives in a run, in their order. -/
def received (d : Desk) (i : Nat) : List DeskStep → List Bytes
  | [] => []
  | s :: rest => d.receives i s ++ received (d.advance s) i rest

/-! ### Steps -/

/-- What holds of the log as it is and as it is once any observer has joined holds after a step that
lets one join, or none. -/
theorem joined_induction {motive : Channel → Prop} (d : Desk) (s : DeskStep)
    (same : motive d.channel)
    (join : ∀ capacity reading, motive (d.channel.join capacity reading).1) :
    motive (d.joined s) := by
  unfold joined
  split
  · exact join _ _
  · exact same

/-- The history grows by what is accepted. -/
theorem history_advance (d : Desk) (s : DeskStep) :
    (d.advance s).channel.history = d.channel.history ++ d.accepts s := by
  rw [channel_advance]
  -- only an append makes the history longer
  cases s with
  | append chunk => exact Channel.history_append d.channel chunk
  | close =>
    simp only [accepts, List.append_nil]
    cases hclose : d.channel.close? with
    | none => rfl
    | some ch => exact Channel.history_close hclose
  | receive i limit =>
    simp only [accepts, List.append_nil]
    exact Channel.history_receive d.channel i limit
  | leave i => simp [accepts, Channel.leave]
  | _ =>
    simp only [accepts, List.append_nil]
    exact joined_induction (motive := fun ch => ch.history = d.channel.history) d _ rfl
      (fun _ _ => rfl)

/-- What an observer has received grows by what it receives. -/
theorem takenBy_advance (d : Desk) (i : Nat) (s : DeskStep) :
    (d.advance s).channel.takenBy i = d.channel.takenBy i ++ d.receives i s := by
  rw [channel_advance]
  -- only a receive hands anything over: what is queued or cut off has not been taken
  cases s with
  | append chunk =>
    simp only [receives, List.append_nil, Channel.append, Channel.takenBy]
    split
    · rfl
    · simp [Function.comp_def, Observer.taken_offer]
  | close =>
    simp only [receives, List.append_nil]
    unfold Channel.close?
    split
    · rfl
    · simp [Channel.takenBy, Observer.cutOff, Function.comp_def]
  | receive j limit => exact Channel.takenBy_receive d.channel i j limit
  | leave j =>
    simp only [receives, List.append_nil, Channel.takenBy, Channel.leave, List.getElem?_modify]
    split <;> simp [Function.comp_def]
  | _ =>
    simp only [receives, List.append_nil]
    exact joined_induction (motive := fun ch => ch.takenBy i = d.channel.takenBy i) d _ rfl
      (fun capacity reading => Channel.takenBy_join d.channel i capacity reading)

theorem sound_advance {d : Desk} (h : d.channel.Sound) (s : DeskStep) :
    (d.advance s).channel.Sound := by
  rw [channel_advance]
  cases s with
  | append chunk => exact h.append chunk
  | close =>
    cases hclose : d.channel.close? with
    | none => exact h
    | some ch => exact h.close hclose
  | receive i limit => exact h.receive i limit
  | leave i => exact h.leave i
  | _ => exact joined_induction d _ h h.join

theorem keeps_advance (d : Desk) (s : DeskStep) : d.channel.Keeps (d.advance s).channel := by
  rw [channel_advance]
  cases s with
  | append chunk => exact Channel.Keeps.append d.channel chunk
  | close =>
    cases hclose : d.channel.close? with
    | none => exact Channel.Keeps.refl _
    | some ch => exact Channel.Keeps.close hclose
  | receive i limit => exact Channel.Keeps.receive d.channel i limit
  | leave i => exact Channel.Keeps.leave d.channel i
  | _ =>
    exact joined_induction (motive := d.channel.Keeps) d _ (Channel.Keeps.refl _)
      (Channel.Keeps.join d.channel)

theorem channel_advance_of_joins {d : Desk} {s : DeskStep} {capacity : Nat} {reading : Bool}
    (h : d.joins? s = some (capacity, reading)) :
    (d.advance s).channel = (d.channel.join capacity reading).1 := by
  rw [channel_advance]
  cases s with
  | subscribe => simp only [joined, h]
  | register i => simp only [joined, h]
  | _ => cases h

/-- A closed log stays closed, and accepts nothing. -/
theorem closed_advance {d : Desk} (h : d.channel.closed = true) (s : DeskStep) :
    (d.advance s).channel.closed = true ∧ d.accepts s = [] := by
  rw [channel_advance]
  cases s with
  | append chunk => simp [accepts, Channel.append, h]
  | close => simp [accepts, Channel.close?, h]
  | receive i limit =>
    refine ⟨?_, rfl⟩
    simp only [Channel.receive]
    split <;> exact h
  | leave i => exact ⟨h, rfl⟩
  | _ =>
    exact ⟨joined_induction (motive := fun ch => ch.closed = true) d _ h (fun _ _ => h), rfl⟩

/-- An observer stays live in a step unless the log is closed after it, or a chunk is appended that
finds its queue full or nobody who reads. -/
theorem live_advance {d : Desk} (h : d.channel.Sound) (s : DeskStep) {i : Nat} {o : Observer}
    (ho : d.channel.observers[i]? = some o) :
    ∃ o', (d.advance s).channel.observers[i]? = some o' ∧
      (o'.live = true ↔ o.live = true ∧ (d.advance s).channel.closed = false ∧
        (d.accepts s ≠ [] → o.reading = true ∧ o.queue.length < o.capacity)) := by
  -- nobody is live in a closed log, so its mark cuts nobody off who is live
  have hopen : o.live = true → d.channel.closed = false := by
    intro hlive
    rw [← Bool.not_eq_true]
    intro hclosed
    rw [h.quiet hclosed o (List.mem_of_getElem? ho)] at hlive
    cases hlive
  have hstays : ∀ o' : Observer, o'.live = o.live →
      (o'.live = true ↔ o.live = true ∧ d.channel.closed = false) := by
    intro o' hlive
    rw [hlive]
    exact ⟨fun hl => ⟨hl, hopen hl⟩, And.left⟩
  rw [channel_advance]
  cases s with
  | append chunk =>
    cases hclosed : d.channel.closed with
    | true =>
      refine ⟨o, by simp [Channel.append, hclosed, ho], ?_⟩
      simpa [accepts, Channel.append, hclosed] using hopen
    | false =>
      refine ⟨o.offer chunk, by simp [Channel.append, hclosed, ho], ?_⟩
      simp [accepts, Channel.append, hclosed, Observer.live_offer_iff]
  | close =>
    cases hclosed : d.channel.closed with
    | true =>
      refine ⟨o, by simp [Channel.close?, hclosed, ho], ?_⟩
      simpa [accepts, Channel.close?, hclosed] using hopen
    | false =>
      refine ⟨o.cutOff, by simp [Channel.close?, hclosed, ho], ?_⟩
      simp [Channel.close?, hclosed, Observer.cutOff]
  | receive j limit =>
    obtain ⟨o', ho', hlive, -⟩ := Channel.kept_receive d.channel j ho limit
    refine ⟨o', ho', ?_⟩
    rw [Channel.closed_receive]
    simpa [accepts] using hstays o' hlive
  | leave j =>
    obtain ⟨o', ho', hlive, -⟩ := Channel.kept_leave d.channel j ho
    exact ⟨o', ho', by simpa [accepts, Channel.leave] using hstays o' hlive⟩
  | _ =>
    -- whoever joins comes after the others
    refine joined_induction (motive := fun ch => ∃ o', ch.observers[i]? = some o' ∧
      (o'.live = true ↔ o.live = true ∧ ch.closed = false ∧
        (([] : List Bytes) ≠ [] → o.reading = true ∧ o.queue.length < o.capacity))) d _ ?_ ?_
    · exact ⟨o, ho, by simpa using hstays o rfl⟩
    · intro capacity reading
      have hlt : i < d.channel.observers.length := (List.getElem?_eq_some_iff.mp ho).1
      exact ⟨o, (List.getElem?_append_left hlt).trans ho, by simpa [Channel.join] using hstays o rfl⟩

/-! ### Runs -/

theorem history_run (d : Desk) (steps : List DeskStep) :
    (d.run steps).channel.history = d.channel.history ++ d.accepted steps := by
  induction steps generalizing d with
  | nil => simp [run, accepted]
  | cons s rest ih =>
    calc ((d.advance s).run rest).channel.history
        = (d.advance s).channel.history ++ (d.advance s).accepted rest := ih _
      _ = d.channel.history ++ (d.accepts s ++ (d.advance s).accepted rest) := by
        rw [history_advance, List.append_assoc]

theorem takenBy_run (d : Desk) (i : Nat) (steps : List DeskStep) :
    (d.run steps).channel.takenBy i = d.channel.takenBy i ++ d.received i steps := by
  induction steps generalizing d with
  | nil => simp [run, received]
  | cons s rest ih =>
    calc ((d.advance s).run rest).channel.takenBy i
        = (d.advance s).channel.takenBy i ++ (d.advance s).received i rest := ih _
      _ = d.channel.takenBy i ++ (d.receives i s ++ (d.advance s).received i rest) := by
        rw [takenBy_advance, List.append_assoc]

theorem sound_run {d : Desk} (h : d.channel.Sound) (steps : List DeskStep) :
    (d.run steps).channel.Sound := by
  induction steps generalizing d with
  | nil => exact h
  | cons s rest ih => exact ih (sound_advance h s)

theorem keeps_run (d : Desk) (steps : List DeskStep) :
    d.channel.Keeps (d.run steps).channel := by
  induction steps generalizing d with
  | nil => exact Channel.Keeps.refl _
  | cons s rest ih => exact (keeps_advance d s).trans (ih _)

theorem accepted_of_closed {d : Desk} (h : d.channel.closed = true) (steps : List DeskStep) :
    d.accepted steps = [] := by
  induction steps generalizing d with
  | nil => rfl
  | cons s rest ih =>
    obtain ⟨hclosed, hnone⟩ := closed_advance h s
    rw [accepted, hnone, ih hclosed, List.nil_append]

/-- All that an observer of a fresh log has been sent, as it is observed in a run. -/
theorem sent_run {steps : List DeskStep} {i : Nat} {o : Observer}
    (ho : (empty.run steps).channel.observers[i]? = some o) :
    o.sent = empty.received i steps ++ o.queue := by
  have htaken : (empty.run steps).channel.takenBy i = empty.received i steps := by
    rw [takenBy_run]
    rfl
  have hi : (empty.run steps).channel.takenBy i = o.taken := by simp [Channel.takenBy, ho]
  rw [Observer.sent, ← hi, htaken]

theorem follows_run {steps : List DeskStep} {i : Nat} {o : Observer}
    (ho : (empty.run steps).channel.observers[i]? = some o) :
    o.Follows (empty.accepted steps) := by
  have hsound : (empty.run steps).channel.Sound := sound_run Channel.sound_empty steps
  have hhistory : (empty.run steps).channel.history = empty.accepted steps := by
    rw [history_run]
    rfl
  exact hhistory ▸ hsound.follows o (List.mem_of_getElem? ho)

/-- An observer that joins after the end, with room for the whole history, is sent all of it. -/
theorem sent_of_joined_closed {d : Desk} {s : DeskStep} {capacity : Nat}
    (hclosed : d.channel.closed = true) (hjoins : d.joins? s = some (capacity, true))
    (hroom : d.channel.history.length ≤ capacity) (after : List DeskStep) :
    ∃ o, ((d.advance s).run after).channel.observers[d.channel.observers.length]? = some o ∧
      o.sent = ((d.advance s).run after).channel.history := by
  have hchannel := channel_advance_of_joins hjoins
  obtain ⟨hclosed', hnone⟩ := closed_advance hclosed s
  have hnew : (d.advance s).channel.observers[d.channel.observers.length]?
      = some (Observer.joining d.channel.history d.channel.closed capacity true) := by
    rw [hchannel]
    simp [Channel.join]
  have hquiet :
      (Observer.joining d.channel.history d.channel.closed capacity true).live = false := by
    rw [hclosed]
    exact Observer.live_joining_of_closed
  obtain ⟨o, ho, _, hsent⟩ := keeps_run (d.advance s) after _ _ hnew hquiet
  refine ⟨o, ho, ?_⟩
  -- nothing is appended any more, so what it was sent when it joined is all there will be
  rw [history_run, accepted_of_closed hclosed', history_advance, hnone, hsent,
    Observer.sent_joining_of_room rfl hroom, List.append_nil, List.append_nil]

/-- Who is live after a step: an observer that was live, unless the log is closed or a chunk was
appended that could not be queued for it; and one that joins, if the log is open and its history
fits. -/
structure Retains (d : Desk) (s : DeskStep) : Prop where
  stays : ∀ (i : Nat) (o : Observer), d.channel.observers[i]? = some o →
    ∃ o', (d.advance s).channel.observers[i]? = some o' ∧
      (o'.live = true ↔ o.live = true ∧ (d.advance s).channel.closed = false ∧
        (d.accepts s ≠ [] → o.reading = true ∧ o.queue.length < o.capacity))
  joins : ∀ capacity reading, d.joins? s = some (capacity, reading) →
    ∃ o, (d.advance s).channel.observers[d.channel.observers.length]? = some o ∧
      (o.live = true ↔ d.channel.closed = false ∧ Fits d.channel.history capacity reading)

theorem retains_of_sound {d : Desk} (h : d.channel.Sound) (s : DeskStep) : d.Retains s where
  stays _ _ ho := live_advance h s ho
  joins capacity reading hjoins := by
    refine ⟨_, ?_, Observer.live_joining_iff d.channel.history d.channel.closed capacity reading⟩
    rw [channel_advance_of_joins hjoins]
    simp [Channel.join]

/-- **Fan-out of a log.** In every run at a fresh log, for every observer, the chunks it has
received and the chunks queued for it are, one after the other, a beginning of the chunks whose
appends were accepted; they are all of those while it is live, and where it joined after the end with
room for the whole history; and once it has been cut off they stay as they are. It is cut off by
closing, by an append that finds its queue full or nobody who reads, and by a replay that does not
fit, and by nothing else. -/
theorem fan_out (steps : List DeskStep) :
    (∀ i o, (empty.run steps).channel.observers[i]? = some o →
      empty.received i steps ++ o.queue <+: empty.accepted steps ∧
      (o.live = true → empty.received i steps ++ o.queue = empty.accepted steps)) ∧
    (∀ before s after capacity, steps = before ++ s :: after →
      (empty.run before).channel.closed = true →
      (empty.run before).joins? s = some (capacity, true) →
      (empty.run before).channel.history.length ≤ capacity →
      ∃ o, (empty.run steps).channel.observers[(empty.run before).channel.observers.length]?
          = some o ∧
        empty.received (empty.run before).channel.observers.length steps ++ o.queue
          = empty.accepted steps) ∧
    (∀ before after i o, steps = before ++ after →
      (empty.run before).channel.observers[i]? = some o → o.live = false →
      ∃ o', (empty.run steps).channel.observers[i]? = some o' ∧ o'.live = false ∧
        empty.received i steps ++ o'.queue = empty.received i before ++ o.queue) ∧
    ∀ before s after, steps = before ++ s :: after → (empty.run before).Retains s := by
  refine ⟨?_, ?_, ?_, fun before s _ _ => retains_of_sound (sound_run Channel.sound_empty before) s⟩
  -- what an observer was sent is a beginning of the log, and all of it while it is live
  · intro i o ho
    rw [← sent_run ho]
    exact ⟨(follows_run ho).beginning, (follows_run ho).whole⟩
  · intro before s after capacity hsteps hclosed hjoins hroom
    subst hsteps
    -- who joins a closed log is sent the history, and nothing can follow
    obtain ⟨o, ho, hsent⟩ := sent_of_joined_closed hclosed hjoins hroom after
    have hrun : empty.run (before ++ s :: after) = ((empty.run before).advance s).run after :=
      run_append empty before (s :: after)
    rw [← hrun] at ho hsent
    refine ⟨o, ho, ?_⟩
    rw [← sent_run ho, hsent, history_run]
    rfl
  · intro before after i o hsteps ho hlive
    subst hsteps
    -- who is cut off is sent nothing more, and keeps what is queued
    obtain ⟨o', ho', hlive', hsent⟩ := keeps_run (empty.run before) after i o ho hlive
    rw [← run_append] at ho'
    refine ⟨o', ho', hlive', ?_⟩
    rw [← sent_run ho', ← sent_run ho, hsent]

/-- The queue of the first observer has room for one chunk only; the second observer joins late. -/
def lateFollower : List DeskStep :=
  [.attach 1, .register 0, .append [97], .append [98], .subscribe]

/-- The late follower has been sent everything, the observer that was cut off by the second chunk
keeps what it had when the log ends, and one that joins after the end is sent everything too. -/
theorem fan_out_lateFollower :
    empty.received 1 lateFollower ++ [[97], [98]] = empty.accepted lateFollower ∧
    (∃ o, (empty.run (lateFollower ++ [.close, .announce, .subscribe])).channel.observers[2]?
        = some o ∧
      empty.received 2 (lateFollower ++ [.close, .announce, .subscribe]) ++ o.queue
        = empty.accepted (lateFollower ++ [.close, .announce, .subscribe])) ∧
    (∃ o, (empty.run (lateFollower ++ [.close, .announce, .subscribe])).channel.observers[0]?
        = some o ∧ o.live = false ∧
      empty.received 0 (lateFollower ++ [.close, .announce, .subscribe]) ++ o.queue
        = empty.received 0 lateFollower ++ [[97]]) ∧
    ∃ o, ((empty.run [.attach 1, .register 0, .append [97]]).advance
        (.append [98])).channel.observers[0]? = some o ∧ o.live = false := by
  -- the first observer has room for one chunk and is cut off; the second is in time for both
  have hlate : (empty.run lateFollower).channel.observers[1]?
      = some ⟨1026, [[97], [98]], [], true, true⟩ := by decide
  have hcut : (empty.run lateFollower).channel.observers[0]?
      = some ⟨1, [[97]], [], true, false⟩ := by decide
  -- a third joins after the end, with room for the whole log
  have hclosed : (empty.run (lateFollower ++ [.close, .announce])).channel.closed = true := by
    decide
  have hjoins : (empty.run (lateFollower ++ [.close, .announce])).joins? .subscribe
      = some (2 + backlog, true) := by decide
  have hroom : (empty.run (lateFollower ++ [.close, .announce])).channel.history.length
      ≤ 2 + backlog := by decide
  have hnumber : (empty.run (lateFollower ++ [.close, .announce])).channel.observers.length = 2 := by
    decide
  have hwhole := (fan_out lateFollower).1 1 _ hlate
  have hjoined := (fan_out (lateFollower ++ [.close, .announce, .subscribe])).2.1
    (lateFollower ++ [.close, .announce]) .subscribe [] (2 + backlog) rfl
  have hlast := hjoined hclosed hjoins hroom
  rw [hnumber] at hlast
  have hkept := (fan_out (lateFollower ++ [.close, .announce, .subscribe])).2.2.1
    lateFollower [.close, .announce, .subscribe] 0 _ rfl hcut
  have hretained := (fan_out lateFollower).2.2.2 [.attach 1, .register 0, .append [97]]
    (.append [98]) [.subscribe] rfl
  -- the queue of the first is full when the second chunk comes
  have hbefore : (empty.run [.attach 1, .register 0, .append [97]]).channel.observers[0]?
      = some ⟨1, [[97]], [], true, true⟩ := by decide
  obtain ⟨o, ho, hlive⟩ := hretained.stays 0 _ hbefore
  refine ⟨hwhole.2 rfl, hlast, hkept rfl, o, ho, ?_⟩
  rw [← Bool.not_eq_true, hlive]
  decide

end Desk

end BuildBroker.Log
