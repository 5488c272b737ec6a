import BuildBroker.Proofs.Coordinator.Chronicle

/-!
# Who Reads the Bits of a Build

Bits that a fetch has taken get a reader, and nobody else reads them. What the reader has found so
far, and what the upload has been told of it, are as the chronicle has it.

Main statements:
- `Build.fetchTurn?_cases`: a turn of a fetch takes the bits in the slot, or nothing.
- `Build.Followed`: the readers, what they have found and what uploads are told.
- `Coordinator.followed_of_play`: this holds in every run.
-/

namespace BuildBroker

open Rendezvous (Outcome)

namespace Build

variable {s : CoordinatorSettings} {b b' : Build} {y : BuildStep} {h : List BuildEvent}

/-! ## §1 Readers -/

@[simp] theorem readers_setPhase (b : Build) (p : Phase) : (b.setPhase p).readers = b.readers := by
  unfold setPhase
  split <;> rfl

theorem reader?_setDrain (b : Build) (t u : Nat) (d : Drain) :
    (b.setDrain t d).reader? u =
      (b.reader? u).map fun r => if t = u then { r with drain := d } else r := by
  have hticket : ((fun r : Reader => decide (r.ticket = u)) ∘
      fun r : Reader => if r.ticket = t then { r with drain := d } else r) =
        fun r : Reader => decide (r.ticket = u) := by
    funext r
    simp only [Function.comp_apply]
    split <;> rfl
  simp only [reader?, setDrain, List.find?_map, hticket]
  cases hr : b.readers.find? (fun r => decide (r.ticket = u)) with
  | none => rfl
  | some r =>
    have hu : r.ticket = u := by simpa using List.find?_some hr
    simp only [Option.map_some, hu, eq_comm]

/-- After a reader has gone on, the others stand as before. -/
theorem reader?_of_read (b : Build) (t u : Nat) (d : Drain) (report : Option Outcome) :
    ((b.setDrain t d).reportDrain t report).reader? u =
      (b.reader? u).map fun r => if t = u then { r with drain := d } else r := by
  rw [← reader?_setDrain]
  cases report <;> rfl

theorem pollBits_of_reader {t : Nat} {r : Reader} (hr : b.reader? t = some r) :
    (b.pollBits t).1 = (b.setDrain t r.drain.poll.1).reportDrain t r.drain.poll.2.2 ∧
      b.notes (.pollBits t) = [.reads t (.polled r.drain.poll.2.1)] := by
  constructor
  · simp [pollBits, hr]
  · simp [notes, pollBits, hr]

theorem leaveBits_of_reader {t : Nat} {r : Reader} (hr : b.reader? t = some r) :
    b.leaveBits t = (b.setDrain t r.drain.leave.1).reportDrain t r.drain.leave.2 ∧
      b.notes (.leaveBits t) = [.reads t .left] := by
  constructor
  · simp [leaveBits, hr]
  · simp [notes, hr]

/-- Nothing happens to bits that nobody has taken. -/
theorem bits_of_nobody {t : Nat} (hr : b.reader? t = none) :
    ((b.pollBits t).1 = b ∧ b.notes (.pollBits t) = []) ∧
      b.leaveBits t = b ∧ b.notes (.leaveBits t) = [] := by
  simp [pollBits, leaveBits, notes, hr]

/-- A turn of a fetch takes the bits in the slot, which then have a reader, or it takes nothing. -/
theorem fetchTurn?_cases {now f : Nat} (hturn : b.fetchTurn? now f = some b')
    (hsound : b.bits.Sound) :
    (b'.readers = b.readers ∧
      (∀ g t, b'.bits.fetchStage? g = some (.took t) ↔ b.bits.fetchStage? g = some (.took t))) ∨
    ∃ t p, b.bits.slot = some t ∧ b.bits.item? t = some p ∧
      b'.readers = b.readers ++ [⟨t, p.contentType, .ofPayload p⟩] ∧
      ∀ g u, b'.bits.fetchStage? g = some (.took u) ↔
        g = f ∧ u = t ∨ b.bits.fetchStage? g = some (.took u) := by
  obtain ⟨bits, hbits, rfl⟩ := Option.map_eq_some_iff.mp hturn
  have hm : Rendezvous.Moves b.bits (.fetchTurn now f) bits :=
    Rendezvous.moves_of_step? (s := .fetchTurn now f) hbits
  cases hm with
  | advance hnone | withdraw hnone => cases hnone
  | @await _ _ g stage hfetch _ hg hover hstay =>
    obtain rfl : f = _ := Option.some.inj hfetch
    have htook := Rendezvous.took_setFetch_of_await hg hover hstay
    refine .inl ⟨?_, htook⟩
    simp only
    split
    · rename_i t ht
      -- a fetch that had taken something before would be over
      rw [(htook f t).mp ht] at hg
      cases hg
      exact absurd trivial hover
    · rfl
  | @take _ _ t hf hslot =>
    have htook := Rendezvous.took_setFetch_of_take t hf
    obtain ⟨d, hd, _⟩ := Option.map_eq_some_iff.mp (hsound.placed t hslot)
    have hitem : b.bits.item? t = some d.item := by simp only [Rendezvous.item?, hd, Option.map_some]
    refine .inr ⟨t, d.item, hslot, hitem, ?_, htook⟩
    have hitem' : (((b.bits.setPickup t .taken).clear).setFetch f (.took t)).item? t =
        some d.item := by
      have hmove : b.bits.Moves (.fetchTurn now f)
          (((b.bits.setPickup t .taken).clear).setFetch f (.took t)) := .take hf hslot
      exact (Rendezvous.Later.of_moves hmove).items t d.item hitem
    simp only [(htook f t).mpr (.inl ⟨rfl, rfl⟩), hitem']

/-! ## §2 The Invariant -/

/-- The readers of a build, what they have found, and what the uploads have been told. -/
structure Followed (b : Build) (h : List BuildEvent) : Prop where
  taken : ∀ t, (b.reader? t).isSome ↔ ∃ f, b.bits.fetchStage? f = some (.took t)
  reads : ∀ t r, b.reader? t = some r → ∃ p, b.bits.item? t = some p ∧
    r.contentType = p.contentType ∧ r.drain.Reads p.body (readings t h)
  unread : ∀ t, b.reader? t = none → readings t h = []
  told : ∀ t, b.bits.outcome? t = ending? (readings t h)

theorem followed_fresh (record : BuildRecord) : (fresh record).Followed [] := by
  have hnone : ∀ t, (fresh record).reader? t = none := fun t => rfl
  refine ⟨?_, ?_, fun _ _ => rfl, fun _ => rfl⟩
  · intro t
    rw [hnone]
    simp [fresh, Rendezvous.empty, Rendezvous.fetchStage?]
  -- there is no reader yet, so all that is said of readers holds
  · intro t r hr
    rw [hnone] at hr
    cases hr

namespace Followed

/-- A change that no reader takes part in. -/
private theorem aside (hf : b.Followed h) {k : List BuildEvent} (hreaders : b'.readers = b.readers)
    (htook : ∀ f t, b'.bits.fetchStage? f = some (.took t) ↔ b.bits.fetchStage? f = some (.took t))
    (hlater : b.bits.Later b'.bits) (houtcome : ∀ t, b'.bits.outcome? t = b.bits.outcome? t)
    (hnotes : ∀ t, readings t k = []) : b'.Followed (h ++ k) := by
  have hreader : ∀ t, b'.reader? t = b.reader? t := fun t => by simp only [reader?, hreaders]
  have hreadings : ∀ t, readings t (h ++ k) = readings t h := fun t => by
    rw [readings_append, hnotes, List.append_nil]
  -- nothing that the four parts speak of has changed
  refine ⟨?_, ?_, ?_, ?_⟩
  · intro t
    simp only [hreader, htook]
    exact hf.taken t
  · intro t r hr
    rw [hreader] at hr
    obtain ⟨p, hp, htype, hreads⟩ := hf.reads t r hr
    exact ⟨p, hlater.items t p hp, htype, (hreadings t).symm ▸ hreads⟩
  · intro t hnone
    rw [hreadings]
    exact hf.unread t (hreader t ▸ hnone)
  · intro t
    rw [houtcome, hreadings]
    exact hf.told t

/-- A step at the rendezvous that takes nothing and that nobody is done by. -/
private theorem at_rendezvous (hf : b.Followed h) {k : List BuildEvent} {x : Rendezvous.Step Payload}
    (hreaders : b'.readers = b.readers) (hm : Rendezvous.Moves b.bits x b'.bits)
    (hfetch : ∀ now f, x ≠ .fetchTurn now f) (hfinish : ∀ f o, x ≠ .finish f o)
    (hnotes : ∀ t, readings t k = []) : b'.Followed (h ++ k) :=
  hf.aside hreaders (Rendezvous.took_iff_of_moves hm hfetch) (.of_moves hm)
    (Rendezvous.outcome?_of_moves hm hfinish) hnotes

/-- Before bits are taken they have no reader. -/
private theorem unread_of_slot (hf : b.Followed h) (hsound : b.bits.Sound) {t : Nat}
    (hslot : b.bits.slot = some t) : b.reader? t = none := by
  by_contra hne
  have htaken := (hsound.taken t).mpr ((hf.taken t).mp (Option.isSome_iff_ne_none.mpr hne))
  rw [hsound.placed t hslot] at htaken
  cases htaken

private theorem fetchTurn (hf : b.Followed h) (hsound : b.bits.Sound) {now f : Nat}
    (hturn : b.fetchTurn? now f = some b') : b'.Followed h := by
  obtain ⟨bits, hbits, heq⟩ := Option.map_eq_some_iff.mp hturn
  have hm : Rendezvous.Moves b.bits (.fetchTurn now f) b'.bits := by
    rw [← heq]
    exact Rendezvous.moves_of_step? (s := .fetchTurn now f) hbits
  have hlater : b.bits.Later b'.bits := .of_moves hm
  have houtcome := Rendezvous.outcome?_of_moves hm (by simp)
  -- a fetch that finds nothing takes no part; one that takes bits brings a reader for them
  rcases fetchTurn?_cases hturn hsound with ⟨hreaders, htook⟩ | ⟨t, p, hslot, hitem, hreaders, htook⟩
  · have haside := hf.aside (k := []) hreaders htook hlater houtcome fun _ => rfl
    rwa [List.append_nil] at haside
  · -- the ticket is new to the readers, so the reader that is added is the one that is found
    have hnone := hf.unread_of_slot hsound hslot
    have hreader : ∀ u, b'.reader? u =
        if u = t then some ⟨t, p.contentType, .ofPayload p⟩ else b.reader? u := by
      intro u
      simp only [reader?, hreaders, List.find?_append, List.find?_singleton]
      by_cases hu : u = t
      · subst hu
        have hold : b.readers.find? (fun r => decide (r.ticket = u)) = none := hnone
        simp [hold]
      · simp [hu, Ne.symm hu]
    refine ⟨?_, ?_, ?_, ?_⟩
    · intro u
      simp only [hreader, htook]
      split
      · rename_i hu
        simp [hu]
      · rename_i hu
        simp only [hu, and_false, false_or]
        exact hf.taken u
    · intro u r hr
      rw [hreader] at hr
      split at hr
      · rename_i hu
        subst hu
        -- this is the new reader: nothing has been read through it yet
        cases hr
        rw [hf.unread u hnone]
        exact ⟨p, hlater.items u p hitem, rfl, .ofPayload p⟩
      · obtain ⟨p', hp, htype, hreads⟩ := hf.reads u r hr
        exact ⟨p', hlater.items u p' hp, htype, hreads⟩
    · intro u hu
      rw [hreader] at hu
      split at hu
      · cases hu
      · exact hf.unread u hu
    · intro u
      rw [houtcome]
      exact hf.told u

/-- What has been reported when a reader goes on: the first reading that ends the bits counts. -/
private theorem outcome?_of_read (hf : b.Followed h) (hsound : b.bits.Sound) {t : Nat} {r : Reader}
    (hr : b.reader? t = some r) (x : Reading) (d : Drain) (u : Nat) :
    ((b.setDrain t d).reportDrain t (if r.drain.armed then x.ending? else none)).bits.outcome? u =
      if t = u then (b.bits.outcome? t).or x.ending? else b.bits.outcome? u := by
  obtain ⟨p, _, _, hreads⟩ := hf.reads t r hr
  rw [hreads.armed, ← hf.told t]
  -- once an outcome is told, the guard is disarmed and reports nothing more
  cases ho : b.bits.outcome? t with
  | some o =>
    have hsame : b.bits.outcome? u = if t = u then some o else b.bits.outcome? u := by
      split
      · rename_i htu
        rw [← htu, ho]
      · rfl
    simpa [reportDrain, setDrain] using hsame
  | none =>
    cases hend : x.ending? with
    | none =>
      have hsame : b.bits.outcome? u = if t = u then none else b.bits.outcome? u := by
        split
        · rename_i htu
          rw [← htu, ho]
        · rfl
      simpa [reportDrain, setDrain] using hsame
    | some o =>
      -- what has a reader was taken, so its delivery hears the report
      obtain ⟨d', hd, hp⟩ := Option.map_eq_some_iff.mp
        ((hsound.taken t).mpr ((hf.taken t).mp (Option.isSome_iff_exists.mpr ⟨r, hr⟩)))
      have hopen : d'.outcome = none := by rw [← Rendezvous.outcome?_of_delivery hd, ho]
      simpa [reportDrain, setDrain] using Rendezvous.outcome?_report u o hd hp hopen

/-- A reader goes on. -/
private theorem read (hf : b.Followed h) (hsound : b.bits.Sound) {t : Nat} {r : Reader}
    (hr : b.reader? t = some r) (x : Reading) (d : Drain)
    (hreads : ∀ body rs, r.drain.Reads body rs → d.Reads body (rs ++ [x])) :
    ((b.setDrain t d).reportDrain t (if r.drain.armed then x.ending? else none)).Followed
      (h ++ [.reads t x]) := by
  have houtcome := hf.outcome?_of_read hsound hr x d
  -- from here on only what is reported matters, not how that was decided
  generalize hreport : (if r.drain.armed then x.ending? else none) = report at houtcome ⊢
  have hreader := fun u => b.reader?_of_read t u d report
  have hfetch : ∀ f, ((b.setDrain t d).reportDrain t report).bits.fetchStage? f =
      b.bits.fetchStage? f := by
    intro f
    cases report <;> rfl
  -- a report changes a delivery at most, and items are never lost by it
  have hlater : b.bits.Later ((b.setDrain t d).reportDrain t report).bits := by
    cases report with
    | none => exact .refl b.bits
    | some o =>
      rcases hsound.report t o with hsame | ⟨f, hstep⟩
      · exact (show b.bits.report t o = b.bits from hsame) ▸ .refl b.bits
      · exact .of_moves (Rendezvous.moves_of_step? hstep)
  have hreadings : ∀ u, readings u (h ++ [.reads t x]) =
      if t = u then readings u h ++ [x] else readings u h := by
    intro u
    rw [readings_append, readings_reads]
    -- the reader that goes on has one reading more, all others are as before
    by_cases htu : t = u <;> simp [htu]
  refine ⟨?_, ?_, ?_, ?_⟩
  · intro u
    simp only [hreader, hfetch, Option.isSome_map]
    exact hf.taken u
  · intro u r' hr'
    rw [hreader] at hr'
    obtain ⟨r₀, hr₀, rfl⟩ := Option.map_eq_some_iff.mp hr'
    obtain ⟨p, hp, htype, hold⟩ := hf.reads u r₀ hr₀
    refine ⟨p, hlater.items u p hp, ?_, ?_⟩
    · split <;> exact htype
    · rw [hreadings]
      by_cases htu : t = u
      · subst htu
        obtain rfl : r = r₀ := Option.some.inj (hr.symm.trans hr₀)
        simpa using hreads _ _ hold
      · simpa [htu] using hold
  · intro u hnone
    rw [hreader, Option.map_eq_none_iff] at hnone
    -- the ticket that is read has a reader, so this is another one
    have htu : t ≠ u := by
      rintro rfl
      rw [hr] at hnone
      cases hnone
    rw [hreadings, if_neg htu]
    exact hf.unread u hnone
  · intro u
    rw [houtcome, hreadings]
    by_cases htu : t = u
    · subst htu
      rw [if_pos rfl, if_pos rfl, ending?_concat, hf.told]
    · rw [if_neg htu, if_neg htu]
      exact hf.told u

/-- Every change of a build keeps the invariant. -/
theorem of_moves (hf : b.Followed h) (hsound : b.bits.Sound) (hm : b.Moves s y b') :
    b'.Followed (h ++ b.notes y) := by
  -- whatever is done to other parts of a build leaves the readers and the bits alone
  have hbeside : ∀ {b' : Build}, b'.readers = b.readers → b'.bits = b.bits →
      (∀ t, readings t (b.notes y) = []) → b'.Followed (h ++ b.notes y) :=
    fun hreaders hbits => hf.aside hreaders (fun f t => by rw [hbits])
      (hbits ▸ .refl b.bits) (fun t => by rw [hbits])
  cases hm with
  | ask | turnDown | accept | finish =>
    exact hbeside (readers_setPhase b _) (bits_setPhase b _)
      fun t => b.readings_notes_of_aside t (by simp) (by simp)
  | start | claim | refuse | unprepared | answer | skipSession | keepSession | clash | settle
  | dropAsking | complete =>
    exact hbeside rfl rfl fun t => b.readings_notes_of_aside t (by simp) (by simp)
  | log hlog =>
    refine hbeside rfl rfl fun t => b.readings_notes_of_aside t ?_ ?_
    · rintro t rfl
      cases hlog
    · rintro t rfl
      cases hlog
  | offer =>
    exact hf.at_rendezvous rfl (.deliver _ _) (by simp) (by simp)
      fun t => b.readings_notes_of_aside t (by simp) (by simp)
  | @dropDelivering u t x _ _ hwaits =>
    have hstep : b.bits.step? (.cancelDelivery t) = some (b.bits.cancelDelivery t) := by
      simp only [Rendezvous.step?, hwaits, if_true]
    exact hf.at_rendezvous rfl (Rendezvous.moves_of_step? hstep) (by simp) (by simp)
      fun t => b.readings_notes_of_aside t (by simp) (by simp)
  | bits hbits =>
    cases hbits with
    | @deliveryTurn u t now x bits _ _ _ hturn =>
      have hmove : b.bits.Moves (.deliveryTurn now t) bits := Rendezvous.moves_of_step? hturn
      exact hf.at_rendezvous rfl hmove (by simp) (by simp)
        fun t => b.readings_notes_of_aside t (by simp) (by simp)
    | fetch now =>
      exact hf.at_rendezvous rfl (.fetch _) (by simp) (by simp)
        fun t => b.readings_notes_of_aside t (by simp) (by simp)
    | @fetchTurn now f _ hturn =>
      have hnotes : b.notes (.fetchTurn now f) = [] := rfl
      rw [hnotes, List.append_nil]
      exact hf.fetchTurn hsound hturn
    | dropFetch hstep | markDelivery hstep | markFetch hstep =>
      obtain ⟨bits, hbits, rfl⟩ := Option.map_eq_some_iff.mp hstep
      have hmove := Rendezvous.moves_of_step? hbits
      exact hf.at_rendezvous rfl hmove (by simp) (by simp)
        fun t => b.readings_notes_of_aside t (by simp) (by simp)
    | poll t =>
      cases hr : b.reader? t with
      | none =>
        obtain ⟨⟨hsame, hnotes⟩, -⟩ := bits_of_nobody hr
        rw [hnotes, hsame, List.append_nil]
        exact hf
      | some r =>
        obtain ⟨hpoll, hnotes⟩ := pollBits_of_reader hr
        rw [hnotes, hpoll, r.drain.poll_report.1]
        exact hf.read hsound hr _ _ fun _ _ hreads => hreads.poll
    | leave t =>
      cases hr : b.reader? t with
      | none =>
        obtain ⟨-, hsame, hnotes⟩ := bits_of_nobody hr
        rw [hnotes, hsame, List.append_nil]
        exact hf
      | some r =>
        obtain ⟨hleave, hnotes⟩ := leaveBits_of_reader hr
        rw [hnotes, hleave]
        exact hf.read hsound hr .left _ fun _ _ hreads => hreads.leave

end Followed

end Build

namespace Coordinator

variable {settings : CoordinatorSettings} {steps : List CoordinatorStep} {c : Coordinator}
variable {id : BuildId} {b : Build}

theorem followed_of_play (h : (Coordinator.mk settings .empty).play steps = some c)
    (hb : c.registry.find? id = some b) :
    b.Followed ((Coordinator.mk settings .empty).chronicle id steps) :=
  chronicle_induction (motive := Build.Followed) (fun _ _ => Build.followed_fresh _)
    (fun _ _ _ _ _ hdelegated _ hf hm => hf.of_moves hdelegated.single.sound hm) h hb

end Coordinator

end BuildBroker
