import Mathlib.Data.List.Infix
import BuildBroker.Http.Sockets
import BuildBroker.Proofs.Coordinator.Completion
import BuildBroker.Proofs.Http.Requests
import BuildBroker.Proofs.Log.Following
import BuildBroker.Proofs.Log.Merging
import BuildBroker.Proofs.Runs

/-!
# Log Sockets from End to End

Any number of sockets are opened on the logs of any number of builds, at any time, and frames arrive
at them and are sent on them in any order, beside everything else that happens at the broker. All
that happens at the sockets of one build is seen in its log, and all that happens to the log is seen
at the sockets.

Main statements:
- `Switchboard.room?`, `Switchboard.register`: the log of a build with its sockets, and what has
  happened at them in a run.
- `Switchboard.register_induction`: what the changes of a log and its sockets keep holds in every
  run.
- `Switchboard.log_sockets`: what the log holds, and what every follower is sent.
-/

namespace BuildBroker

open Log (Room SocketEvent)

/-! ## §1 What Happens to a Log -/

/-- A change of a build that is no call at its log leaves the log as it is, or closes it. -/
theorem Build.log_of_moves {s : CoordinatorSettings} {b b' : Build} {y : BuildStep}
    (hm : b.Moves s y b') (hy : y.isLogCall = false) :
    b'.log = b.log ∨ b.log.close? = some b'.log := by
  -- besides calls at the log only a result that is recorded closes it
  cases hm with
  | complete _ hclose => exact .inr hclose
  | log hlog => cases hlog <;> cases hy
  | bits hbits => exact .inl hbits.frame.2.2
  | ask | turnDown | accept | finish => exact .inl (log_setPhase b _)
  | start | claim | refuse | unprepared | answer | skipSession | keepSession | clash | offer | settle
  | dropAsking | dropDelivering => exact .inl rfl

/-- A request asks for no call at a log. -/
theorem BrokerStep.not_isLogCall_of_call? {s : BrokerStep} {id : BuildId} {y : BuildStep}
    (hs : s.isLogCall = false) (h : s.call? = some (.build id y)) : y.isLogCall = false := by
  cases s with
  | inside x =>
    cases h
    exact hs
  | request x r =>
    -- the routes of a build that call the coordinator are those of bits and results
    have hroute : ∀ {route : Http.BuildRoute} {y : BuildStep}, route.call? x r = some y →
        y.isLogCall = false := by
      intro route y hcall
      unfold Http.BuildRoute.call? at hcall
      split at hcall
      · split at hcall <;> cases hcall <;> rfl
      · split at hcall
        · split at hcall <;> cases hcall
          rfl
        · cases hcall
      all_goals cases hcall
    -- a request makes at most one call, which its route decides
    simp only [call?, Http.Request.call?] at h
    split at h
    · cases h
    · split at h
      · unfold Http.Route.call? at h
        split at h
        · cases h
        · split at h
          · split at h <;> cases h
          · cases h
        · split at h
          · obtain ⟨y', hcall, heq⟩ := Option.map_eq_some_iff.mp h
            cases heq
            exact hroute hcall
          · cases h
          · cases h
      · cases h

namespace Switchboard

variable {settings : CoordinatorSettings} {steps : List SwitchboardStep} {w w' : Switchboard}
variable {id : BuildId} {r r' : Room} {x : SwitchboardStep}

/-- The broker's ends of the sockets on the log of a build. -/
def endsAt (sockets : List LogSocket) (id : BuildId) (n : Nat) : Option Log.SocketEnd :=
  (sockets[n]?).bind fun x => if x.id = id then some x.side else none

/-- The log of a build with the sockets on it, if the build is there. -/
def room? (w : Switchboard) (id : BuildId) : Option Room :=
  (w.coordinator.registry.find? id).map fun b => ⟨b.log, endsAt w.sockets id⟩

/-- What is entered in the register of the log of a build at a step. -/
def entries (id : BuildId) (w : Switchboard) : SwitchboardStep → List SocketEvent
  | .socket n y =>
    match w.room? id, w.socketStep? n y with
    | some r, some (_, _, fs) => if (r.ends n).isSome then [⟨n, y, fs, !r.log.closed⟩] else []
    | _, _ => []
  | .serve _ | .connect _ _ => []

/-- The register of the log of a build in a run: what has happened at its sockets. -/
def register (w : Switchboard) (id : BuildId) (steps : List SwitchboardStep) : List SocketEvent :=
  Runs.seen step? (entries id) w steps

/-! ## §2 Steps -/

/-- A socket that is opened comes after the others. -/
theorem endsAt_append (sockets : List LogSocket) (id id' : BuildId) (e : Log.SocketEnd) :
    endsAt (sockets ++ [⟨id', e⟩]) id =
      if id' = id then Function.update (endsAt sockets id) sockets.length (some e)
      else endsAt sockets id := by
  funext n
  unfold endsAt
  -- an old socket, the new one, or none
  rcases Nat.lt_trichotomy n sockets.length with hlt | rfl | hgt
  · rw [List.getElem?_append_left hlt]
    split
    · rw [Function.update_of_ne (Nat.ne_of_lt hlt)]
    · rfl
  · rw [List.getElem?_concat_length]
    split <;> simp_all
  · have hnone : sockets[n]? = none := List.getElem?_eq_none (by omega)
    rw [List.getElem?_eq_none (by simp; omega)]
    split
    · rw [Function.update_of_ne (by omega), hnone]
    · simp [hnone]

theorem endsAt_set {sockets : List LogSocket} {n : Nat} {x : LogSocket} (hx : sockets[n]? = some x)
    (id : BuildId) (e : Log.SocketEnd) :
    endsAt (sockets.set n ⟨x.id, e⟩) id =
      if x.id = id then Function.update (endsAt sockets id) n (some e) else endsAt sockets id := by
  funext m
  have hlt : n < sockets.length := (List.getElem?_eq_some_iff.mp hx).1
  unfold endsAt
  by_cases hmn : m = n
  · subst hmn
    rw [List.getElem?_set_self hlt]
    split <;> simp_all
  · rw [List.getElem?_set_ne (Ne.symm hmn)]
    split
    · rw [Function.update_of_ne hmn]
    · rfl

theorem endsAt_length (sockets : List LogSocket) (id : BuildId) :
    endsAt sockets id sockets.length = none := by
  simp [endsAt]

theorem find?_setLog {b : Build} (hb : w.coordinator.registry.find? id = some b)
    (log : Log.Channel) (id' : BuildId) :
    (w.setLog id log).coordinator.registry.find? id' =
      if id' = id then some { b with log } else w.coordinator.registry.find? id' := by
  have hkept : ∀ b : Build, b.id = id → ({ b with log } : Build).id = id := fun _ hid => hid
  refine (w.coordinator.registry.find?_modify id id' hkept).trans ?_
  rw [hb, Option.map_some]

/-- What a build and its sockets come to by a step that sets a log and a socket. -/
theorem room?_setLog {id' : BuildId} {b : Build} {log : Log.Channel} {sockets : List LogSocket}
    (hb : w.coordinator.registry.find? id' = some b) :
    room? { w.setLog id' log with sockets } id =
      if id = id' then some ⟨log, endsAt sockets id⟩
      else (w.room? id).map fun r => { r with ends := endsAt sockets id } := by
  have hfind := find?_setLog hb log id
  unfold room?
  split
  · rename_i heq
    rw [if_pos heq] at hfind
    simp only [hfind, Option.map_some]
  · rename_i hne
    rw [if_neg hne] at hfind
    simp only [hfind, Option.map_map, Function.comp_def]

/-- What happens at the broker besides is a call at its coordinator, or nothing. -/
theorem of_serve {s : BrokerStep} (h : w.step? (.serve s) = some w') :
    w' = w ∨ ∃ x c', s.isLogCall = false ∧ s.call? = some x ∧ w.coordinator.step? x = some c' ∧
      w' = { w with coordinator := c' } := by
  simp only [step?] at h
  split at h
  · cases h
  · rename_i hother
    obtain ⟨c', hstep, rfl⟩ := Option.map_eq_some_iff.mp h
    have hcall := Coordinator.call_of_serveStep? hstep
    cases hs : s.call? with
    | none =>
      rw [hs, Option.elim_none] at hcall
      cases hcall
      exact .inl rfl
    | some x =>
      rw [hs, Option.elim_some] at hcall
      exact .inr ⟨x, c', by simpa using hother, rfl, hcall, rfl⟩

theorem of_connect {id' : BuildId} {side : Http.LogSide}
    (h : w.step? (.connect id' side) = some w') :
    ∃ b, w.coordinator.registry.find? id' = some b ∧
      w' = { w.setLog id' (Log.SocketEnd.connect b.log side).1 with
        sockets := w.sockets ++ [⟨id', (Log.SocketEnd.connect b.log side).2⟩] } := by
  obtain ⟨b, hb, hrest⟩ := Option.bind_eq_some_iff.mp h
  exact ⟨b, hb, (Option.some.inj hrest).symm⟩

theorem of_socket {n : Nat} {y : Log.SocketStep} (h : w.step? (.socket n y) = some w') :
    ∃ x b e log fs, w.sockets[n]? = some x ∧ w.coordinator.registry.find? x.id = some b ∧
      w.socketStep? n y = some (e, log, fs) ∧ x.side.step? b.log y = some (e, log, fs) ∧
      w' = { w.setLog x.id log with sockets := w.sockets.set n ⟨x.id, e⟩ } := by
  obtain ⟨x, hx, hrest⟩ := Option.bind_eq_some_iff.mp h
  obtain ⟨⟨e, log, fs⟩, hstep, heq⟩ := Option.bind_eq_some_iff.mp hrest
  obtain ⟨x', hx', hfound⟩ := Option.bind_eq_some_iff.mp hstep
  obtain rfl : x = x' := Option.some.inj (hx.symm.trans hx')
  obtain ⟨b, hb, hside⟩ := Option.bind_eq_some_iff.mp hfound
  exact ⟨x, b, e, log, fs, hx, hb, hstep, hside, (Option.some.inj heq).symm⟩

/-- What happens at the broker besides is nothing to a log, or closes it. -/
private theorem moves_of_serve {s : BrokerStep} (h : w.step? (.serve s) = some w')
    (hr : w.room? id = some r) : ∃ r', w'.room? id = some r' ∧ r.Moves [] r' := by
  rcases of_serve h with rfl | ⟨x, c', hother, hs, hcall, rfl⟩
  · exact ⟨r, hr, .stays⟩
  · obtain ⟨b, hb, rfl⟩ := Option.map_eq_some_iff.mp hr
    obtain ⟨b', hb', hcases⟩ := Coordinator.moves_of_step? hcall hb
    refine ⟨⟨b'.log, endsAt w.sockets id⟩, by simp only [room?, hb', Option.map_some], ?_⟩
    rcases hcases with ⟨rfl, _⟩ | ⟨y, rfl, hm⟩
    · exact .stays
    · rcases Build.log_of_moves hm (BrokerStep.not_isLogCall_of_call? hother hs) with
        hsame | hclose
      · rw [hsame]
        exact .stays
      · exact .close hclose

/-- A socket that is opened joins the log of its build. -/
private theorem moves_of_connect {id' : BuildId} {side : Http.LogSide}
    (h : w.step? (.connect id' side) = some w') (hr : w.room? id = some r) :
    ∃ r', w'.room? id = some r' ∧ r.Moves [] r' := by
  obtain ⟨b', hb', rfl⟩ := of_connect h
  rw [room?_setLog hb', endsAt_append]
  by_cases hid : id' = id
  -- a socket at this build joins its room, on the side that it asks for
  · subst hid
    obtain ⟨b, hb, rfl⟩ := Option.map_eq_some_iff.mp hr
    obtain rfl : b' = b := Option.some.inj (hb'.symm.trans hb)
    rw [if_pos rfl, if_pos rfl]
    refine ⟨_, rfl, ?_⟩
    cases side with
    | input => exact .joinProducer (endsAt_length w.sockets id')
    | output => exact .joinFollower (endsAt_length w.sockets id')
  · rw [if_neg hid, if_neg (Ne.symm hid), hr]
    obtain ⟨b, hb, rfl⟩ := Option.map_eq_some_iff.mp hr
    exact ⟨_, rfl, .stays⟩

/-- Something that happens at a socket happens to the log of its build. -/
private theorem moves_of_socket {n : Nat} {y : Log.SocketStep}
    (h : w.step? (.socket n y) = some w') (hr : w.room? id = some r) :
    ∃ r', w'.room? id = some r' ∧ r.Moves (w.entries id (.socket n y)) r' := by
  obtain ⟨x, b', e, log, fs, hx, hb', hstep, hside, rfl⟩ := of_socket h
  rw [room?_setLog hb', endsAt_set hx]
  obtain ⟨b, hb, hroom⟩ := Option.map_eq_some_iff.mp hr
  subst hroom
  by_cases hid : x.id = id
  · subst hid
    obtain rfl : b' = b := Option.some.inj (hb'.symm.trans hb)
    have hend : endsAt w.sockets x.id n = some x.side := by simp [endsAt, hx]
    have hentries : w.entries x.id (.socket n y) = [⟨n, y, fs, !b'.log.closed⟩] := by
      simp [entries, hr, hstep, hend]
    rw [if_pos rfl, if_pos rfl, hentries]
    exact ⟨_, rfl, Room.moves_of_step? hend hside⟩
  · have hend : endsAt w.sockets id n = none := by simp [endsAt, hx, hid]
    have hentries : w.entries id (.socket n y) = [] := by
      simp [entries, hr, hstep, hend]
    rw [if_neg hid, if_neg (Ne.symm hid), hr, hentries]
    exact ⟨_, rfl, .stays⟩

/-- A turn that a follower can take is a step. -/
theorem isSome_turn {n : Nat} {v : Log.Follower} (hr : w.room? id = some r)
    (hv : r.ends n = some (.follower v))
    (hturn : (Log.SocketEnd.turn? r.log true (.follower v)).isSome = true) :
    (w.step? (.socket n (.turn true))).isSome = true := by
  obtain ⟨b, hb, rfl⟩ := Option.map_eq_some_iff.mp hr
  obtain ⟨x, hx, hside⟩ := Option.bind_eq_some_iff.mp hv
  obtain ⟨⟨e, log, fs⟩, hres⟩ := Option.isSome_iff_exists.mp hturn
  split at hside
  · rename_i hid
    have hfollower : x.side = .follower v := Option.some.inj hside
    have hstep : w.socketStep? n (.turn true) = some (e, log, fs) := by
      simp only [socketStep?, hx, hid, hb, hfollower, Option.bind_eq_bind, Option.bind_some]
      exact hres
    simp [step?, hx, hstep]
  · cases hside

/-- What a step does to the log of a build and to the sockets on it. -/
theorem moves_of_step? (h : w.step? x = some w') (hr : w.room? id = some r) :
    ∃ r', w'.room? id = some r' ∧ r.Moves (w.entries id x) r' := by
  cases x with
  | serve s => exact moves_of_serve h hr
  | connect id' side => exact moves_of_connect h hr
  | socket n y => exact moves_of_socket h hr

/-- Sockets are only there on the logs of builds. -/
def Seated (w : Switchboard) : Prop :=
  ∀ x ∈ w.sockets, (w.room? x.id).isSome = true

theorem Seated.of_step? (h : w.Seated) (hstep : w.step? x = some w') : w'.Seated := by
  -- no build is ever lost
  have hkept : ∀ {id}, (w.room? id).isSome = true → (w'.room? id).isSome = true := by
    intro id hsome
    obtain ⟨r, hr⟩ := Option.isSome_iff_exists.mp hsome
    obtain ⟨r', hr', _⟩ := moves_of_step? hstep hr
    simp [hr']
  intro z hz
  cases x with
  | serve s =>
    rcases of_serve hstep with rfl | ⟨_, c', _, _, _, rfl⟩
    · exact h z hz
    · exact hkept (h z hz)
  | connect id' side =>
    obtain ⟨b, hb, heq⟩ := of_connect hstep
    have hsockets : w'.sockets = w.sockets ++ [⟨id', (Log.SocketEnd.connect b.log side).2⟩] := by
      rw [heq]
    rw [hsockets] at hz
    rcases List.mem_append.mp hz with hold | hnew
    · exact hkept (h z hold)
    · rw [List.mem_singleton.mp hnew]
      exact hkept (by simp [room?, hb])
  | socket n y =>
    obtain ⟨x, b, e, log, fs, hx, hb, _, _, heq⟩ := of_socket hstep
    have hsockets : w'.sockets = w.sockets.set n ⟨x.id, e⟩ := by rw [heq]
    rw [hsockets] at hz
    rcases List.mem_or_eq_of_mem_set hz with hold | rfl
    · exact hkept (h z hold)
    · exact hkept (by simp [room?, hb])

/-- There is no socket on the log of a build that is not there. -/
theorem Seated.endsAt_eq (h : w.Seated) (hnone : w.room? id = none) :
    endsAt w.sockets id = fun _ => none := by
  funext n
  cases hx : w.sockets[n]? with
  | none => simp [endsAt, hx]
  | some z =>
    have hz := h z (List.mem_of_getElem? hx)
    have hne : z.id ≠ id := by
      rintro rfl
      rw [hnone] at hz
      cases hz
    simp [endsAt, hx, hne]

/-- A build that has just been registered has a fresh log, and no socket on it. -/
theorem room?_of_born (hseated : w.Seated) (hstep : w.step? x = some w')
    (hnone : w.room? id = none) (hr' : w'.room? id = some r') :
    r' = .empty ∧ w.entries id x = [] := by
  have hfree : w.coordinator.registry.find? id = none := by simpa [room?] using hnone
  -- a step that sets the log of a build has found it
  have hfound : ∀ {id' b log sockets}, w.coordinator.registry.find? id' = some b →
      room? { w.setLog id' log with sockets } id ≠ some r' := by
    intro id' b log sockets hb
    have hne : id ≠ id' := by
      rintro rfl
      rw [hfree] at hb
      cases hb
    rw [room?_setLog hb, if_neg hne, hnone, Option.map_none]
    intro h
    cases h
  cases x with
  | serve s =>
    rcases of_serve hstep with rfl | ⟨_, c', _, _, hcall, rfl⟩
    · rw [hnone] at hr'
      cases hr'
    · obtain ⟨b', hb', rfl⟩ := Option.map_eq_some_iff.mp hr'
      rcases Coordinator.born_of_step? hcall hb' with ⟨b, hb, _⟩ | ⟨now, sub, rfl⟩
      · rw [hfree] at hb
        cases hb
      · rw [hseated.endsAt_eq hnone]
        exact ⟨rfl, rfl⟩
  | connect id' side =>
    obtain ⟨b, hb, rfl⟩ := of_connect hstep
    exact absurd hr' (hfound hb)
  | socket n y =>
    obtain ⟨z, b, e, log, fs, _, hb, _, _, rfl⟩ := of_socket hstep
    exact absurd hr' (hfound hb)

/-! ## §3 Runs -/

/-- Induction on what happens to the log of one build and to the sockets on it, along its
register. -/
theorem register_induction {motive : List SwitchboardStep → Room → List SocketEvent → Prop}
    (born : ∀ xs, motive xs .empty [])
    (moved : ∀ xs w x w' r r' register, (start settings).run xs = some w → w.room? id = some r →
      w.step? x = some w' → w'.room? id = some r' → r.Moves (w.entries id x) r' →
      motive xs r register → motive (xs ++ [x]) r' (register ++ w.entries id x))
    (h : (start settings).run steps = some w) (hr : w.room? id = some r) :
    motive steps r ((start settings).register id steps) := by
  -- beside the motive it is carried along that a build comes without sockets and without entries
  have hrun : (start settings).run steps = some w ∧ w.Seated ∧
      (w.room? id = none → (start settings).register id steps = []) ∧
      ∀ r, w.room? id = some r → motive steps r ((start settings).register id steps) := by
    refine Runs.run_induction (motive := fun xs mid => (start settings).run xs = some mid ∧
      mid.Seated ∧ (mid.room? id = none → (start settings).register id xs = []) ∧
      ∀ r, mid.room? id = some r → motive xs r ((start settings).register id xs))
      ⟨rfl, fun _ hx => by (cases hx), fun _ => rfl, fun _ hr => by (cases hr)⟩ ?_ h
    rintro xs mid x mid' ⟨hmid, hseated, hnothing, hmotive⟩ hstep
    have hmore : (start settings).register id (xs ++ [x]) =
        (start settings).register id xs ++ mid.entries id x := Runs.seen_concat hmid
    refine ⟨Runs.run_concat.mpr ⟨mid, hmid, hstep⟩, hseated.of_step? hstep, ?_, ?_⟩
    · intro hnone
      cases hfind : mid.room? id with
      | some r =>
        -- a build is never lost
        obtain ⟨r', hr', _⟩ := moves_of_step? hstep hfind
        rw [hnone] at hr'
        cases hr'
      | none =>
        have hquiet : mid.entries id x = [] := by
          cases x with
          | socket n y => simp [entries, hfind]
          | serve | connect => rfl
        rw [hmore, hnothing hfind, hquiet, List.append_nil]
    · intro r' hr'
      rw [hmore]
      cases hfind : mid.room? id with
      | none =>
        obtain ⟨rfl, hquiet⟩ := room?_of_born hseated hstep hfind hr'
        rw [hnothing hfind, hquiet]
        exact born _
      | some r =>
        obtain ⟨r₁, hr₁, hm⟩ := moves_of_step? hstep hfind
        obtain rfl : r₁ = r' := Option.some.inj (hr₁.symm.trans hr')
        exact moved xs mid x mid' r r₁ _ hmid hfind hstep hr' hm (hmotive r hfind)
  exact hrun.2.2.2 r hr

/-- Whether a socket has never been cut off while its log was open, up to the end of a run. -/
def KeepsUp (w : Switchboard) (id : BuildId) (n : Nat) (steps : List SwitchboardStep) : Prop :=
  ∀ before, before <+: steps → ∀ mid r, w.run before = some mid → mid.room? id = some r →
    r.isBehind n = false

/-- What holds of the log of a build and of the sockets on it in every run. -/
structure Kept (r : Room) (register : List SocketEvent) : Prop where
  sound : r.log.Sound
  merged : r.Merged register
  followed : r.Followed register
  turns : ∀ n v, r.ends n = some (.follower v) →
    (Log.told n register).length = Log.turns n register

theorem kept_of_run (h : (start settings).run steps = some w) (hr : w.room? id = some r) :
    Kept r ((start settings).register id steps) := by
  refine register_induction (motive := fun _ => Kept) ?_ ?_ h hr
  · intro _
    exact ⟨Log.Channel.sound_empty, .empty, .empty, fun _ _ hv => by (cases hv)⟩
  · intro _ mid x _ r r' register _ _ _ _ hm hkept
    have huntouched := hkept.merged.untouched
    exact ⟨Room.sound_of_moves hm hkept.sound, hkept.merged.of_moves hm,
      hkept.followed.of_moves hkept.sound huntouched hm,
      Room.Followed.turns_of_moves huntouched hkept.turns hm⟩

/-- A follower that is never cut off is to be sent the whole log. -/
theorem whole_of_run (h : (start settings).run steps = some w) (hr : w.room? id = some r)
    {n : Nat} {v : Log.Follower} (hv : r.ends n = some (.follower v))
    (hkeeps : (start settings).KeepsUp id n steps) :
    ∃ o, r.log.observers[v.observer]? = some o ∧ o.sent = r.log.history := by
  refine register_induction (motive := fun xs r _ => (start settings).KeepsUp id n xs →
    ∀ v, r.ends n = some (.follower v) → ∃ o, r.log.observers[v.observer]? = some o ∧
      o.sent = r.log.history) ?_ ?_ h hr hkeeps v hv
  · intro _ _ v hv
    cases hv
  · intro xs mid x mid' r r' _ hmid hr hstep hr' hm hwhole hkeeps v hv
    have hplay : (start settings).run (xs ++ [x]) = some mid' :=
      Runs.run_concat.mpr ⟨mid, hmid, hstep⟩
    -- who keeps up in the longer run has kept up in the shorter one
    have hbefore : (start settings).KeepsUp id n xs :=
      fun before hbefore => hkeeps before (hbefore.trans (List.prefix_append _ _))
    obtain ⟨o, ho, _⟩ := (kept_of_run hplay hr').followed.told n v hv
    exact Room.whole_of_moves (kept_of_run hmid hr).sound hm ⟨o, ho⟩ hv
      (hkeeps _ (List.prefix_refl _) mid' r' hplay hr') (hwhole hbefore)

/-- **Log sockets from end to end.** In every run, for every build: its log is a merge of the chunks
that have arrived from its producers while it was open, each up to its last frame. Every follower is
sent a beginning of the log, one frame of octets for each chunk, and then at most one close frame;
each of its turns that gets through sends one of these frames. One that stays, and is not cut off
before the log ends, has been sent the whole log and the close frame, once the log is closed and
there is no further turn for it to take. And one that stays is cut off while the log is open only if
a whole backlog is queued for it. -/
theorem log_sockets (h : (start settings).run steps = some w) (hr : w.room? id = some r)
    {register : List SocketEvent} (hregister : (start settings).register id steps = register) :
    Log.IsMergeOf (r.part register) r.log.history ∧
    ∀ n v, r.ends n = some (.follower v) →
      (∃ chunks, chunks <+: r.log.history ∧
        (Log.told n register = chunks.map .binary ∨
          Log.told n register = chunks.map .binary ++ [.close none])) ∧
      (Log.told n register).length = Log.turns n register ∧
      (Log.StaysOpen n register → (start settings).KeepsUp id n steps →
        r.log.closed = true ∧ Log.told n register = r.log.history.map .binary ++ [.close none] ∨
        ∃ chunks, chunks <+: r.log.history ∧ Log.told n register = chunks.map .binary ∧
          ((w.step? (.socket n (.turn true))).isSome = true ∨
            r.log.closed = false ∧ chunks = r.log.history)) ∧
      ∀ x w' r', w.step? x = some w' → w'.room? id = some r' → Log.StaysOpen n register →
        r.isBehind n = false → r'.isBehind n = true →
        ∃ o, r.log.observers[v.observer]? = some o ∧ Log.backlog ≤ o.queue.length := by
  subst hregister
  have hkept := kept_of_run h hr
  refine ⟨hkept.merged.merge, ?_⟩
  intro n v hv
  refine ⟨?_, hkept.turns n v hv, ?_, ?_⟩
  · obtain ⟨o, ho, htold⟩ := hkept.followed.told n v hv
    have htaken : o.taken <+: r.log.history := Room.taken_prefix_history hkept.sound ho
    generalize v.sending = sending at htold
    generalize hfs : Log.told n ((start settings).register id steps) = fs at htold
    cases htold with
    | sending => exact ⟨o.taken, htaken, .inl rfl⟩
    | ended => exact ⟨o.taken, htaken, .inr rfl⟩
    | left _ hprefix => exact ⟨_, hprefix, .inl rfl⟩
  · intro hstays hkeeps
    -- all of the log is for it, and has been sent or is queued
    obtain ⟨o, ho, hwhole⟩ := whole_of_run h hr hv hkeeps
    have hnow := hkeeps steps (List.prefix_refl _) w r h hr
    rcases Room.told_of_whole hkept.followed hv ho hwhole hkept.sound hstays hnow with
      hall | ⟨chunks, hprefix, htold, hturn | hwaits⟩
    · exact .inl hall
    · exact .inr ⟨chunks, hprefix, htold, .inl (isSome_turn hr hv hturn)⟩
    · exact .inr ⟨chunks, hprefix, htold, .inr hwaits⟩
  · intro x w' r' hstep hr' hstays hbefore hafter
    obtain ⟨r₁, hr₁, hm⟩ := moves_of_step? hstep hr
    obtain rfl : r₁ = r' := Option.some.inj (hr₁.symm.trans hr')
    exact Room.backlog_of_behind hkept.followed hm hv hstays hbefore hafter

/-- Two producers and a follower; the result is reported before one of the producers is done, and
before the follower has been sent everything. -/
def hastyResult : List SwitchboardStep :=
  [.serve (.inside (.create ⟨7⟩ ⟨⟨2026, 1, 1⟩, 0, 0⟩ ⟨"image", "", "", .empty⟩)),
    .connect ⟨7⟩ .input, .connect ⟨7⟩ .output, .connect ⟨7⟩ .input,
    .socket 0 (.arrive (some (.text "a"))), .socket 2 (.arrive (some (.ping [1]))),
    .socket 2 (.arrive (some (.binary [98]))), .socket 1 (.turn true),
    .serve (.inside (.build ⟨7⟩ (.recordResult ⟨"success"⟩))),
    .socket 0 (.arrive (some (.text "late"))), .socket 1 (.turn true), .socket 1 (.turn true)]

/-- The log is a merge of what came before the result, and the follower has been sent all of it. -/
theorem log_sockets_hastyResult :
    ∃ w r, (start ⟨"h:1", 1000, 60000⟩).run hastyResult = some w ∧ w.room? ⟨7⟩ = some r ∧
      Log.IsMergeOf (r.part ((start ⟨"h:1", 1000, 60000⟩).register ⟨7⟩ hastyResult))
        [[97], [98]] ∧
      Log.told 1 ((start ⟨"h:1", 1000, 60000⟩).register ⟨7⟩ hastyResult) =
        [.binary [97], .binary [98], .close none] := by
  let w₀ := start ⟨"h:1", 1000, 60000⟩
  have hlast : ((w₀.run hastyResult).bind fun w => (w.room? ⟨7⟩).map fun r =>
      (r.ends 1, r.log.closed, r.log.history, (w.step? (.socket 1 (.turn true))).isSome)) =
        some (some (.follower ⟨0, false⟩), true, [[97], [98]], false) := by
    decide +kernel
  obtain ⟨w, hw, hlast'⟩ := Option.bind_eq_some_iff.mp hlast
  obtain ⟨r, hr, heq⟩ := Option.map_eq_some_iff.mp hlast'
  simp only [Prod.mk.injEq] at heq
  obtain ⟨hv, hclosed, hhistory, hrest⟩ := heq
  -- the follower does not leave, and its observer is never behind
  have hstays : Log.StaysOpen 1 (w₀.register ⟨7⟩ hastyResult) := by
    have hall : (w₀.register ⟨7⟩ hastyResult).all
        (fun e => e.socket ≠ 1 || !e.step.leaves) = true := by decide +kernel
    intro e he hsocket
    simpa [hsocket] using List.all_eq_true.mp hall e he
  have hkeeps : w₀.KeepsUp ⟨7⟩ 1 hastyResult := by
    have hall : hastyResult.inits.all (fun before =>
        ((w₀.run before).bind (room? · ⟨7⟩)).all fun r => !r.isBehind 1) = true := by decide +kernel
    intro before hbefore mid r hmid hr
    have hone := List.all_eq_true.mp hall before ((List.mem_inits before hastyResult).mpr hbefore)
    rw [hmid, Option.bind_some, hr] at hone
    simpa using hone
  obtain ⟨hmerge, hfollowers⟩ := log_sockets hw hr rfl
  obtain ⟨_, _, hwhole, _⟩ := hfollowers 1 _ hv
  refine ⟨w, r, hw, hr, hhistory ▸ hmerge, ?_⟩
  -- the log has ended and nothing is queued any more, so all of it has been sent
  rcases hwhole hstays hkeeps with ⟨_, hall⟩ | ⟨_, _, _, hturn | ⟨hopen, _⟩⟩
  · rw [hhistory] at hall
    exact hall
  · rw [hrest] at hturn
    cases hturn
  · rw [hclosed] at hopen
    cases hopen

end Switchboard

end BuildBroker
