import BuildBroker.Proofs.Coordinator.Lifecycle
import BuildBroker.Proofs.Http.Unchanged

/-!
# Requests for Heads

A request for a head alone is handled like one for the whole answer, whose body is then left. For all
routes but one nothing is at stake. For the bits of a build it is: a fetch joins the others, and where
it finds bits, the bits are taken and left before anything is read of them.

Main statements:
- `Http.receive_of_head`, `Http.receive_bits`: what a request for a head does at each route.
- `Build.fetch_cases`: what the steps of a fetch do, which take bits or leave all else alone.
- `Build.Wasted`: bits that were taken and left; `Build.Loses`: what becomes of their upload.
- `Coordinator.heads_waste_bits`: requests for heads are safe except where they take bits.
-/

namespace BuildBroker

namespace Http

/-! ## §1 Requests -/

/-- The build whose bits a request is about. -/
def Request.bitsOf? (r : Request) : Option BuildId :=
  match Route.ofPath? r.target.path with
  | some (.build segment .bits) => (segmentText? segment).bind fun raw => (parseId raw).toOption
  | _ => none

variable {x : Context} {c : Coordinator} {r : Request} {id : BuildId} {b : Build}

/-- A fetch of the bits of a build that is there joins the others. -/
theorem startFetch_of_find? (hb : c.registry.find? id = some b) (now : Nat) :
    c.startFetch id now = .ok (c.modify id (·.startFetch (now + c.settings.fetchTimeout)),
      b.bits.fetches.length) := by
  simp [Coordinator.startFetch, Registry.get, hb, Coordinator.ofRegistry, bind, Except.bind, pure,
    Except.pure]

theorem startFetch_of_none (hnone : c.registry.find? id = none) (now : Nat) :
    c.startFetch id now = .error (.registry (.notFound id)) := by
  simp [Coordinator.startFetch, Registry.get, hnone, Coordinator.ofRegistry, bind, Except.bind]

/-- A request for the head of bits is taken on as one for the bits. -/
private theorem receive_eq_fetchBits {segment : List Char} {raw : String} (hhead : r.isHead = true)
    (hroute : Route.ofPath? r.target.path = some (.build segment .bits))
    (hraw : segmentText? segment = some raw) : receive x c r = fetchBits x c raw := by
  have hmethod : r.method = "HEAD" := by simpa [Request.isHead] using hhead
  simp [receive, hroute, Route.allows, handle, hmethod, hraw]

/-- A request for the head of the bits of a build that is there starts a fetch. -/
theorem receive_bits (hhead : r.isHead = true) (hbits : r.bitsOf? = some id)
    (hb : c.registry.find? id = some b) :
    receive x c r = (c.modify id (·.startFetch (x.now + c.settings.fetchTimeout)),
      .fetch id b.bits.fetches.length) := by
  unfold Request.bitsOf? at hbits
  split at hbits
  · rename_i segment hroute
    obtain ⟨raw, hraw, hparsed⟩ := Option.bind_eq_some_iff.mp hbits
    cases hid : parseId raw with
    | error a =>
      rw [hid] at hparsed
      cases hparsed
    | ok id' =>
      rw [hid] at hparsed
      obtain rfl : id' = id := Option.some.inj hparsed
      rw [receive_eq_fetchBits hhead hroute hraw]
      simp only [fetchBits, hid, startFetch_of_find? hb]
  · cases hbits

/-- A request for the head of bits that no build has is refused. -/
private theorem receive_no_bits {segment : List Char} (hhead : r.isHead = true)
    (hroute : Route.ofPath? r.target.path = some (.build segment .bits))
    (hnone : ∀ id, r.bitsOf? = some id → c.registry.find? id = none) :
    ∃ a, receive x c r = answer c a := by
  cases hraw : segmentText? segment with
  | none =>
    have hmethod : r.method = "HEAD" := by simpa [Request.isHead] using hhead
    exact ⟨badSegment, by simp [receive, hroute, Route.allows, handle, hmethod, hraw]⟩
  | some raw =>
    rw [receive_eq_fetchBits hhead hroute hraw]
    rcases fetchBits_cases x c raw with hanswer | ⟨id, c', f, hid, hstart, -⟩
    · exact hanswer
    · -- a fetch starts only where there is a build
      have hbits : r.bitsOf? = some id := by
        simp only [Request.bitsOf?, hroute, hraw, Option.bind_some, hid, Except.toOption]
      rw [startFetch_of_none (hnone id hbits)] at hstart
      cases hstart

/-- A request for a head leaves everything as it is, unless it is for the bits of a build that is
there. -/
theorem receive_of_head (hfree : c.registry.find? x.freshId = none) (hhead : r.isHead = true)
    (hnone : ∀ id, r.bitsOf? = some id → c.registry.find? id = none) :
    (receive x c r).1 = c ∧ (receive x c r).2.isApart = true := by
  have hmethod : r.method = "HEAD" := by simpa [Request.isHead] using hhead
  cases hroute : Route.ofPath? r.target.path with
  | none => simp [receive, hroute, answer, Pending.isApart]
  | some route =>
    cases route with
    | health | builds =>
      exact receive_of_onlyReads hfree (by simp [Request.onlyReads, hroute, hmethod])
    | build segment part =>
      cases part with
      | record | result | hijack | abort =>
        exact receive_of_onlyReads hfree (by simp [Request.onlyReads, hroute, hmethod])
      | log side =>
        -- a log is opened by a request for the whole only
        simp [receive, hroute, Route.allows, handle, hmethod, socketRefusal?, answer,
          Pending.isApart]
      | bits =>
        obtain ⟨a, ha⟩ := receive_no_bits hhead hroute hnone
        rw [ha]
        exact ⟨rfl, rfl⟩

end Http

/-! ## §2 The Steps of a Fetch -/

/-- The fetch that a step belongs to. -/
def BuildStep.fetch? : BuildStep → Option Nat
  | .fetchTurn _ f | .dropFetch f | .markFetch f _ => some f
  | _ => none

/-- What a fetch has taken is not in the slot. -/
theorem Rendezvous.Sound.slot_ne_of_took {α : Type} {r : Rendezvous α} (h : r.Sound) {f t : Nat}
    (htook : r.fetchStage? f = some (.took t)) : r.slot ≠ some t := by
  intro hslot
  have htaken := (h.taken t).mpr ⟨f, htook⟩
  rw [h.placed t hslot] at htaken
  cases htaken

namespace Build

variable {s : CoordinatorSettings} {b b' : Build} {y : BuildStep} {f t u : Nat}

/-- A build is as it was, but for fetches that wait for its bits. -/
structure SameButFetches (b b' : Build) : Prop where
  record : b'.record = b.record
  log : b'.log = b.log
  uploads : b'.uploads = b.uploads
  readers : b'.readers = b.readers
  slot : b'.bits.slot = b.bits.slot
  deliveries : b'.bits.deliveries = b.bits.deliveries

theorem sameButFetches_startFetch (b : Build) (deadline : Nat) :
    b.SameButFetches (b.startFetch deadline) :=
  ⟨rfl, rfl, rfl, rfl, rfl, rfl⟩

/-- A fetch takes what is in the slot, of which nothing is known yet. -/
structure Takes (b b' : Build) (f t : Nat) : Prop where
  record : b'.record = b.record
  log : b'.log = b.log
  uploads : b'.uploads = b.uploads
  placed : b.bits.slot = some t
  took : b'.bits.fetchStage? f = some (.took t)
  untold : b'.bits.outcome? t = none

/-- A turn of a fetch takes the bits in the slot, or leaves all but fetches alone. -/
private theorem fetchTurn_cases (hsound : b.bits.Sound) {now : Nat}
    (hturn : b.fetchTurn? now f = some b') : b.SameButFetches b' ∨ ∃ t, b.Takes b' f t := by
  have hcases := fetchTurn?_cases hturn hsound
  obtain ⟨bits, hbits, rfl⟩ := Option.map_eq_some_iff.mp hturn
  have hm : b.bits.Moves (.fetchTurn now f) bits := Rendezvous.moves_of_step? hbits
  -- whether there is a new reader tells whether bits were taken
  rcases hcases with ⟨hreaders, htook⟩ | ⟨t, _, hslot, _, _, htook⟩
  · rcases Rendezvous.slot_eq_of_moves hm rfl with ⟨t, ht⟩ | ⟨hslot, hdeliveries⟩
    · -- a fetch that has taken something takes no turns
      obtain ⟨g, hg, hs⟩ := Option.map_eq_some_iff.mp ((htook f t).mp ht)
      simp [Rendezvous.fetchTurn?, hg, hs] at hbits
    · exact .inl ⟨rfl, rfl, rfl, hreaders, hslot, hdeliveries⟩
  · refine .inr ⟨t, rfl, rfl, rfl, hslot, (htook f t).mpr (.inl ⟨rfl, rfl⟩), ?_⟩
    rw [Rendezvous.outcome?_of_moves hm (by simp)]
    exact hsound.outcome?_of_slot hslot

/-- A step at the rendezvous that belongs to a waiting fetch leaves all but fetches alone. -/
private theorem sameButFetches_of_bitsStep? {x : Rendezvous.Step Payload}
    (hstep : b.bitsStep? x = some b') (hfetch : x.fetch? = some f)
    (hturn : ∀ now g, x ≠ .fetchTurn now g) (hfinish : ∀ g o, x ≠ .finish g o) :
    b.SameButFetches b' := by
  obtain ⟨bits, hbits, rfl⟩ := Option.map_eq_some_iff.mp hstep
  cases Rendezvous.moves_of_step? hbits with
  | deliver | fetch | place => cases hfetch
  | advance hnone | withdraw hnone =>
    rw [hfetch] at hnone
    cases hnone
  | await => exact ⟨rfl, rfl, rfl, rfl, rfl, rfl⟩
  | take => exact absurd rfl (hturn _ _)
  | finish => exact absurd rfl (hfinish _ _)

/-- A step of a fetch takes the bits in the slot, or leaves all but fetches alone. -/
theorem fetch_cases (hsound : b.bits.Sound) (hm : b.Moves s y b') (hy : y.fetch? = some f) :
    b.SameButFetches b' ∨ ∃ t, b.Takes b' f t := by
  cases hm with
  | bits hbits =>
    cases hbits with
    | fetchTurn hturn =>
      obtain rfl := Option.some.inj hy
      exact fetchTurn_cases hsound hturn
    | dropFetch hstep | markFetch hstep =>
      exact .inl (sameButFetches_of_bitsStep? hstep rfl (by simp) (by simp))
    | deliveryTurn | fetch | markDelivery | poll | leave => cases hy
  | log hlog => cases hlog <;> cases hy
  | start | claim | refuse | unprepared | ask | answer | turnDown | skipSession | keepSession | clash
  | accept | offer | settle | finish | dropAsking | dropDelivering | complete => cases hy

/-! ## §3 Wasted Bits -/

/-- The fetch that has taken the bits under a ticket has left them before their end. -/
structure Wasted (b : Build) (f t : Nat) : Prop where
  took : b.bits.fetchStage? f = some (.took t)
  left : b.bits.outcome? t = some .interrupted

namespace Wasted

/-- Bits that are left before anything has ended them are wasted. -/
theorem of_leave {h : List BuildEvent} (hf : b.Followed h) (hsound : b.bits.Sound)
    (hm : b.Moves s (.leaveBits t) b') (htook : b.bits.fetchStage? f = some (.took t))
    (huntold : b.bits.outcome? t = none) : b'.Wasted f t := by
  refine ⟨(hm.later hsound).took htook, ?_⟩
  have hreader : (b.reader? t).isSome := (hf.taken t).mpr ⟨f, htook⟩
  have hleft : readings t (b.notes (.leaveBits t)) = [.left] := by
    simp [notes, hreader, readings, BuildEvent.reading?]
  have hopen : ending? (readings t h) = none := by rw [← hf.told t, huntold]
  rw [(hf.of_moves hsound hm).told t, readings_append, hleft, ending?_concat, hopen]
  rfl

/-- Wasted bits stay wasted. -/
theorem of_moves (hw : b.Wasted f t) (hsound : b.bits.Sound) (hm : b.Moves s y b') :
    b'.Wasted f t := by
  have htook := (hm.later hsound).took hw.took
  refine ⟨htook, ?_⟩
  rcases hm.rendezvous hsound with hsame | ⟨x, hstep, -⟩
  · rw [hsame]
    exact hw.left
  · -- what has been told of a fetch is told once and for all
    have htold : b.bits.Told f .interrupted := ⟨t, hw.took, hw.left⟩
    have hmove := Rendezvous.moves_of_step? hstep
    obtain ⟨t', htook', hleft⟩ :=
      (Rendezvous.told_iff_of_moves hsound hmove f .interrupted).mpr (.inl htold)
    rw [htook] at htook'
    cases htook'
    exact hleft

theorem of_reaches (hw : b.Wasted f t) (hdelegated : b.Delegated) (hreach : b.Reaches s b') :
    b'.Wasted f t := by
  induction hreach with
  | refl => exact hw
  | tail hreach hm ih =>
    obtain ⟨_, hm⟩ := hm
    exact ih.of_moves (hdelegated.of_reaches hreach).single.sound hm

/-- A delivery whose bits are wasted ends in no other way. -/
theorem result_eq (hw : b.Wasted f t) (hsound : b.bits.Sound) {res : Rendezvous.DeliverResult}
    (hres : b.bits.result? t = some res) : res = .drained .interrupted := by
  obtain ⟨d, hd, hs⟩ :=
    Rendezvous.delivery_of_stage (Rendezvous.deliveryStage?_of_result? hres)
  have hpickup : d.pickup = .taken := by
    have htaken := (hsound.taken t).mpr ⟨f, hw.took⟩
    rw [Rendezvous.pickup?_of_delivery hd] at htaken
    exact Option.some.inj htaken
  have houtcome : d.outcome = some .interrupted := by
    rw [← Rendezvous.outcome?_of_delivery hd]
    exact hw.left
  -- a delivery that has returned was told what its outcome says
  have hconsistent := (hsound.consistent t d hd).2
  cases res with
  | drained o =>
    simp only [hs] at hconsistent
    obtain ⟨-, -, ho⟩ := hconsistent
    rw [houtcome] at ho
    rw [Option.some.inj ho]
  | notFetched =>
    simp only [hs] at hconsistent
    exact absurd hpickup hconsistent.2

/-- A build offers bits once, so after the waste nobody gets any. -/
theorem nobody (hw : b.Wasted f t) (hsingle : b.bits.Single) :
    b.bits.slot = none ∧ ∀ g v, b.bits.fetchStage? g = some (.took v) → g = f := by
  have hsound := hsingle.sound
  have hticket : ∀ {v p}, b.bits.pickup? v = some p → v = t :=
    fun hv => hsingle.ticket_unique hv ((hsound.taken t).mpr ⟨f, hw.took⟩)
  refine ⟨?_, ?_⟩
  · by_contra hfull
    obtain ⟨v, hslot⟩ := Option.ne_none_iff_exists'.mp hfull
    obtain rfl := hticket (hsound.placed v hslot)
    exact hsound.slot_ne_of_took hw.took hslot
  · intro g v hg
    obtain rfl := hticket ((hsound.taken v).mpr ⟨g, hg⟩)
    exact hsound.once g f v hg hw.took

end Wasted

/-- What becomes of an upload whose bits are wasted. -/
inductive Loses (b : Build) (u t : Nat) : Prop where
  | unaware : b.stage? u = some (.delivering t) → Loses b u t
  | told : b.stage? u = some (.ended (.error .bitsInterrupted)) → Loses b u t
  | dropped : b.stage? u = some (.dropped (some t)) → Loses b u t

/-- An upload that delivers its bits goes on as the delivery has ended, if it has. -/
theorem stage?_of_delivering {now : Nat} (hm : b.Moves s (.uploadTurn now u) b')
    (hu : b.stage? u = some (.delivering t)) :
    b'.stage? u = some (.delivering t) ∨
      ∃ res, b.bits.result? t = some res ∧ b'.stage? u = some (afterDelivery res) := by
  obtain ⟨x, hx, hs⟩ := Option.map_eq_some_iff.mp hu
  have hturn := uploadTurn?_of_moves hm
  simp only [uploadTurn?, hx, hs] at hturn
  cases hres : b.bits.result? t with
  | some res =>
    simp only [hres, Option.some.injEq] at hturn
    subst hturn
    exact .inr ⟨res, rfl, stage?_setUpload_self hu _⟩
  | none =>
    simp only [hres] at hturn
    obtain ⟨bits, -, rfl⟩ := Option.map_eq_some_iff.mp hturn
    exact .inl hu

namespace Loses

/-- An upload whose bits are wasted hears of nothing else. -/
theorem of_moves (hl : b.Loses u t) (hw : b.Wasted f t) (hsound : b.bits.Sound)
    (hm : b.Moves s y b') : b'.Loses u t := by
  cases hl with
  | unaware hu =>
    obtain ⟨x', hu', rfl | hnext⟩ := next_of_moves hm hu
    · exact .unaware hu'
    · -- it goes on only by the end of the delivery, or is given up
      cases hnext with
      | dropDelivering => exact .dropped hu'
      | settle =>
        rcases stage?_of_delivering hm hu with hstays | ⟨res, hres, hafter⟩
        · exact .unaware hstays
        · obtain rfl := hw.result_eq hsound hres
          exact .told hafter
  | told hu => exact .told (UploadStage.IsOver.of_reaches (.single ⟨y, hm⟩) hu trivial)
  | dropped hu => exact .dropped (UploadStage.IsOver.of_reaches (.single ⟨y, hm⟩) hu trivial)

theorem of_reaches (hl : b.Loses u t) (hw : b.Wasted f t) (hdelegated : b.Delegated)
    (hreach : b.Reaches s b') : b'.Loses u t := by
  induction hreach with
  | refl => exact hl
  | tail hreach hm ih =>
    obtain ⟨_, hm⟩ := hm
    exact ih.of_moves (hw.of_reaches hdelegated hreach) (hdelegated.of_reaches hreach).single.sound hm

/-- The build of an upload whose bits are wasted is not claimed again, and does not run. -/
theorem phase_eq (hl : b.Loses u t) (hdelegated : b.Delegated) :
    b.record.phase = .completed ∨ b.record.phase = .accepted := by
  have hphase : ∃ x, b.stage? u = some x ∧ x.phase? = some .accepted := by
    cases hl with
    | unaware hu | told hu | dropped hu => exact ⟨_, hu, rfl⟩
  obtain ⟨x, hu, hx⟩ := hphase
  rcases hdelegated.phase_of hu (by simp [hx]) with hdone | hsame
  · exact .inl hdone
  · rw [hx] at hsame
    exact .inr (Option.some.inj hsame).symm

end Loses

end Build

/-! ## §4 Runs -/

namespace Coordinator

open Http (Context Request receive handBits)

variable {settings : CoordinatorSettings} {steps : List BrokerStep} {c c' : Coordinator}
variable {id : BuildId} {b : Build} {f t : Nat}

/-- A step of a fetch takes the bits in the slot, or leaves all but fetches alone. -/
private theorem fetch_cases (hb : c.registry.find? id = some b) (hsound : b.bits.Sound)
    {y : BuildStep} (hy : y.fetch? = some f) (hstep : c.step? (.build id y) = some c') :
    ∃ b', c.Puts c' b' ∧ (b.SameButFetches b' ∨ ∃ t, b.Takes b' f t) := by
  rcases stepAt?_cases hstep with ⟨-, hcall⟩ | ⟨b₀, b', hb₀, hm, hputs⟩
  · cases y <;> first | exact hcall.elim | cases hy
  · obtain rfl : b₀ = b := Option.some.inj (hb₀.symm.trans hb)
    exact ⟨b', hputs, Build.fetch_cases hsound hm hy⟩

/-- What a build comes to whose bits were taken for a head. -/
private theorem wasted_of_handBits (h : (Coordinator.mk settings .empty).play (calls steps) = some c)
    (hb : c.registry.find? id = some b) (htook : b.bits.fetchStage? f = some (.took t))
    (huntold : b.bits.outcome? t = none) (p : Reader) :
    ∃ b', (handBits c id t p true).1.registry.find? id = some b' ∧ b'.Delegated ∧
      b'.Wasted f t ∧ ∀ u, b'.stage? u = b.stage? u := by
  have hdelegated := delegated_of_play h hb
  -- a head is answered without its bits, and that is the step of a reader who leaves them
  have hleave : b.BitsMoves settings (.leaveBits t) (b.leaveBits t) := .leave t
  have hm : b.Moves settings (.leaveBits t) (b.leaveBits t) := .bits hleave
  have hname : (b.leaveBits t).id = id := hm.id_eq.trans (id_of_find? hb)
  have hput := (puts_modify hb (f := (·.leaveBits t)) fun b' hb' => ?_).find id
  · rw [if_pos hname.symm] at hput
    exact ⟨b.leaveBits t, hput, hdelegated.of_moves hm,
      .of_leave (followed_of_play h hb) hdelegated.single.sound hm htook huntold,
      Build.stage?_of_uploads_eq hleave.frame.2.1⟩
  · have hleave' : b'.BitsMoves settings (.leaveBits t) (b'.leaveBits t) := .leave t
    exact (Build.Moves.bits hleave').id_eq.trans hb'

/-- **Heads waste bits.** A request for a head alone leaves the coordinator as it is, and starts
nothing there, unless it is for the bits of a build that is there. Such a request starts a fetch
beside the others, and like every fetch it leaves the record, the log, the uploads and the slot alone
until it takes what is in the slot. But what it takes it does not read: from then on the slot of the
build is empty, no other fetch ever gets any bits, and an upload that waits for the bits to be read
can be told nothing but that the reading was interrupted, if its caller does not give it up. The
build does not run, and no upload can claim it. -/
theorem heads_waste_bits (h : (Coordinator.mk settings .empty).serve steps = some c)
    {x : Context} {r : Request} (hfree : c.registry.find? x.freshId = none)
    (hhead : r.isHead = true) :
    ((∀ id, r.bitsOf? = some id → c.registry.find? id = none) →
      (receive x c r).1 = c ∧ (receive x c r).2.isApart = true) ∧
    ∀ id b, c.registry.find? id = some b →
      (r.bitsOf? = some id → (receive x c r).2 = .fetch id b.bits.fetches.length ∧
        ∃ b', c.Puts (receive x c r).1 b' ∧ b.SameButFetches b' ∧
          b'.bits.fetches = b.bits.fetches ++ [⟨x.now + c.settings.fetchTimeout, .looking⟩]) ∧
      (∀ f y c', y.fetch? = some f → c.step? (.build id y) = some c' →
        ∃ b', c.Puts c' b' ∧ (b.SameButFetches b' ∨ ∃ t, b.Takes b' f t)) ∧
      ∀ f t p, b.bits.fetchStage? f = some (.took t) → b.bits.outcome? t = none →
        ∀ more c₁ b₁, (handBits c id t p r.isHead).1.serve more = some c₁ →
          c₁.registry.find? id = some b₁ →
          b₁.Wasted f t ∧ b₁.bits.slot = none ∧
            (∀ g v, b₁.bits.fetchStage? g = some (.took v) → g = f) ∧
            ∀ u, b.stage? u = some (.delivering t) → b₁.Loses u t ∧
              (b₁.record.phase = .completed ∨ b₁.record.phase = .accepted) := by
  have hplay := play_of_serve h
  refine ⟨Http.receive_of_head hfree hhead, ?_⟩
  intro id b hb
  have hdelegated := delegated_of_play hplay hb
  refine ⟨?_, ?_, ?_⟩
  -- a head of bits that are there starts a fetch
  · intro hbits
    rw [Http.receive_bits hhead hbits hb]
    exact ⟨rfl, _, puts_modify hb fun _ hid => hid, b.sameButFetches_startFetch _, rfl⟩
  -- every step of a fetch up to the one that takes the bits
  · intro f y c' hy hstep
    exact fetch_cases hb hdelegated.single.sound hy hstep
  · intro f t p htook huntold more c₁ b₁ hmore hb₁
    rw [hhead] at hmore
    -- once taken they are left unread, and what is wasted stays wasted
    obtain ⟨b', hb', hdelegated', hwasted, hstages⟩ := wasted_of_handBits hplay hb htook huntold p
    have hreach := reaches_between (play_of_serve hmore) hb' hb₁
    have hdelegated₁ := hdelegated'.of_reaches hreach
    have hwasted₁ := hwasted.of_reaches hdelegated' hreach
    obtain ⟨hempty, halone⟩ := hwasted₁.nobody hdelegated₁.single
    refine ⟨hwasted₁, hempty, halone, ?_⟩
    intro u hu
    -- the upload does not know of it yet, but can hear of nothing else
    have hloses : b'.Loses u t := .unaware ((hstages u).trans hu)
    have hloses₁ := hloses.of_reaches hwasted hdelegated' hreach
    exact ⟨hloses₁, hloses₁.phase_eq hdelegated₁⟩

/-- A request for the head of the bits of a build. -/
def headRequest (id : BuildId) : Request :=
  ⟨"HEAD", ⟨("/builds/" ++ id.toText ++ "/bits").toList, none⟩, [], .ofBytes []⟩

/-- An upload has offered its bits, and they are taken for a head. -/
def curiousHead : List BrokerStep :=
  (readUpload.take 9).map .inside ++
    [.request quietCaller (headRequest ⟨7⟩), .inside (.build ⟨7⟩ (.fetchTurn 0 0))]

/-- The ticket under which an upload delivers its bits. -/
private def ticketOf? : UploadStage → Option Nat
  | .delivering t => some t
  | _ => none

/-- The upload never ends well, a second request for the head starts a second fetch, and that fetch
never gets anything. -/
theorem heads_waste_bits_curiousHead :
    ∃ c b, (Coordinator.mk ⟨"h:1", 1000, 60000⟩ .empty).serve curiousHead = some c ∧
      c.registry.find? ⟨7⟩ = some b ∧
      (receive quietCaller c (headRequest ⟨7⟩)).2 = .fetch ⟨7⟩ 1 ∧
      ∀ p more c₁ b₁, (handBits c ⟨7⟩ 0 p (headRequest ⟨7⟩).isHead).1.serve more = some c₁ →
        c₁.registry.find? ⟨7⟩ = some b₁ → b₁.Loses 0 0 ∧ b₁.bits.slot = none ∧
          ∀ v, b₁.bits.fetchStage? 1 ≠ some (.took v) := by
  have hlast : (((Coordinator.mk ⟨"h:1", 1000, 60000⟩ .empty).serve curiousHead).bind
      (·.registry.find? ⟨7⟩)).map (fun b => (b.bits.fetchStage? 0, b.bits.outcome? 0,
        (b.stage? 0).bind ticketOf?, b.bits.fetches.length)) =
      some (some (.took 0), none, some 0, 1) := by decide +kernel
  obtain ⟨b, hb', hview⟩ := Option.map_eq_some_iff.mp hlast
  obtain ⟨c, hc, hb⟩ := Option.bind_eq_some_iff.mp hb'
  simp only [Prod.mk.injEq] at hview
  obtain ⟨htook, huntold, hticket, hfetches⟩ := hview
  have hunused : ((Coordinator.mk ⟨"h:1", 1000, 60000⟩ .empty).serve curiousHead).map
      (fun c => (c.registry.find? ⟨99⟩).isNone) = some true := by decide +kernel
  rw [hc, Option.map_some, Option.some.injEq] at hunused
  have hu : b.stage? 0 = some (.delivering 0) := by
    obtain ⟨x, hx, ht⟩ := Option.bind_eq_some_iff.mp hticket
    unfold ticketOf? at ht
    split at ht
    · cases ht
      exact hx
    · cases ht
  -- the request that comes now is for the same bits
  have hbits : (headRequest ⟨7⟩).bitsOf? = some ⟨7⟩ := by decide +kernel
  obtain ⟨-, hbuilds⟩ := heads_waste_bits hc (x := quietCaller) (r := headRequest ⟨7⟩)
    (Option.isNone_iff_eq_none.mp hunused) rfl
  obtain ⟨hstarts, -, hwastes⟩ := hbuilds ⟨7⟩ b hb
  refine ⟨c, b, hc, hb, hfetches ▸ (hstarts hbits).1, ?_⟩
  intro p more c₁ b₁ hmore hb₁
  obtain ⟨-, hempty, halone, hlost⟩ := hwastes 0 0 p htook huntold more c₁ b₁ hmore hb₁
  refine ⟨(hlost 0 hu).1, hempty, ?_⟩
  intro v hv
  exact absurd (halone 1 v hv) (by decide)

end Coordinator

end BuildBroker
