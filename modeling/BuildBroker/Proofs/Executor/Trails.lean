import BuildBroker.Executor.Client
import Mathlib.Data.List.Chain

/-!
# Trails of References

A request is sent, and sent on to where the answers refer, a bounded number of times. What is read in
the end is the reply to the request that was sent last; the replies before it say nothing but where to
go. What a reply means is left to the reading of answers.

Main statements:
- `Trail`: the requests that are sent, each one led to by the one before.
- `trail_of_exchange`: there is always such a trail, and the reply at its end decides.
- `Means`: what a reply means at the end of a trail.
- `Trail.read_iff`: what is read of a request is what the last reply means.
- `trail_of_consult`, `consult_of_stands`: the trail of a request, and when it is the only one.
-/

namespace BuildBroker.Executor

open Http

/-! ## §1 Trails -/

/-- The reply to a request leads to another request. -/
def LeadsTo (send : Outgoing → Reply) (o o' : Outgoing) : Prop :=
  ∃ a, send o = .answer a ∧ next o a = .follow o'

theorem turn_eq_onward {send : Outgoing → Reply} {o o' : Outgoing} :
    turn o (send o) = .onward o' ↔ LeadsTo send o o' := by
  unfold turn LeadsTo
  split
  · rename_i hsend
    simp [hsend]
  · rename_i hsend
    simp [hsend]
  · rename_i hsend
    simp [hsend]
  -- only an answer leads on, and only if its reference can be followed
  · rename_i a hsend
    simp only [hsend, Reply.answer.injEq, exists_eq_left']
    split
    · rename_i hnext
      simp [hnext]
    · rename_i hnext
      simp [hnext]
    · rename_i hnext
      simp [hnext]

/-- What is sent for a request, and what comes of it, if so many references are followed. -/
structure Trail (send : Outgoing → Reply) (limit : Nat) (o : Outgoing) (sent : List Outgoing)
    (x : Outcome) : Prop where
  first : sent.head? = some o
  chain : sent.IsChain (LeadsTo send)
  short : sent.length ≤ limit + 1
  /-- The reply to the last request settles the matter, or one reference too many has come. -/
  last : ∃ z, sent.getLast? = some z ∧
    (turn z (send z) = .settled x ∨
      sent.length = limit + 1 ∧ x = .failed ∧ ∃ o', LeadsTo send z o')

namespace Trail

variable {send : Outgoing → Reply} {limit : Nat} {o o' : Outgoing} {sent : List Outgoing}
variable {x : Outcome}

/-- Before a trail may stand a request that leads to it. -/
theorem prepend (h : Trail send limit o' sent x) (hleads : LeadsTo send o o') :
    Trail send (limit + 1) o (o :: sent) x := by
  obtain ⟨z, hlast, hend⟩ := h.last
  have hshort := h.short
  refine ⟨rfl, ?_, by simpa using hshort, z, ?_, ?_⟩
  · refine List.isChain_cons.mpr ⟨?_, h.chain⟩
    intro y hy
    rw [h.first] at hy
    cases hy
    exact hleads
  · rw [List.getLast?_cons, hlast, Option.getD_some]
  · rcases hend with hsettled | ⟨hlength, hrest⟩
    · exact .inl hsettled
    · exact .inr ⟨by rw [List.length_cons, hlength], hrest⟩

/-- A request whose reply leads nowhere is the only one. -/
theorem alone (h : Trail send limit o sent x) (hnowhere : ∀ o', ¬LeadsTo send o o') :
    sent = [o] := by
  have hfirst := h.first
  have hchain := h.chain
  match sent with
  | [] => cases hfirst
  | [z] =>
    cases hfirst
    rfl
  | z :: z' :: rest =>
    cases hfirst
    cases hchain with
    | cons_cons hleads _ => exact absurd hleads (hnowhere z')

/-- A request whose reply leads to another is followed by that one. -/
theorem second (h : Trail send limit o sent x) (hlimit : 0 < limit) (hleads : LeadsTo send o o') :
    [o, o'] <+: sent := by
  obtain ⟨z, hlast, hend⟩ := h.last
  have hfirst := h.first
  have hchain := h.chain
  match sent with
  | [] => cases hfirst
  | [y] =>
    cases hfirst
    obtain rfl : o = z := Option.some.inj hlast
    rcases hend with hsettled | ⟨hlength, _⟩
    · rw [turn_eq_onward.mpr hleads] at hsettled
      cases hsettled
    · simp only [List.length_cons, List.length_nil] at hlength
      omega
  | y :: y' :: rest =>
    cases hfirst
    cases hchain with
    | cons_cons hleads' _ =>
      -- a reply leads to one request only
      obtain ⟨a, hsend, hnext⟩ := hleads
      obtain ⟨a', hsend', hnext'⟩ := hleads'
      rw [hsend] at hsend'
      cases hsend'
      rw [hnext] at hnext'
      cases hnext'
      exact ⟨rest, rfl⟩

end Trail

/-- Following references makes a trail. -/
theorem trail_of_follow (send : Outgoing → Reply) (limit : Nat) (o : Outgoing) :
    Trail send limit o (follow send limit o).1 (follow send limit o).2 := by
  -- on the references that may still be followed, from whatever request it has come to
  induction limit generalizing o with
  | zero =>
    unfold follow
    cases hturn : turn o (send o) with
    | settled x => exact ⟨rfl, .singleton o, by simp, o, rfl, .inl hturn⟩
    | onward o' =>
      have hleads : LeadsTo send o o' := turn_eq_onward.mp hturn
      exact ⟨rfl, .singleton o, by simp, o, rfl, .inr ⟨rfl, rfl, o', hleads⟩⟩
  | succ limit ih =>
    unfold follow
    cases hturn : turn o (send o) with
    | settled x => exact ⟨rfl, .singleton o, by simp, o, rfl, .inl hturn⟩
    | onward o' => exact (ih o').prepend (turn_eq_onward.mp hturn)

/-- A request that can be sent at all makes a trail. -/
theorem trail_of_exchange (send : Outgoing → Reply) {o : Outgoing}
    (hweb : isWebScheme o.url.scheme = true) :
    Trail send followLimit o (exchange send o).1 (exchange send o).2 := by
  unfold exchange
  rw [if_pos hweb]
  exact trail_of_follow send followLimit o

/-! ## §2 What the last reply means -/

/-- What the reply to the last request of a trail means, in a given reading of answers. -/
inductive Means {α : Type} (read : Answer → Except ExecutorError α) :
    Reply → Except ExecutorError α → Prop where
  | stands {a : Answer} : a.reference? = none → Means read (.answer a) (read a)
  /-- The place referred to cannot be asked, or is one too many. -/
  | elsewhere {a : Answer} : a.reference? ≠ none →
      Means read (.answer a) (.error (.unreachable none))
  | refused : Means read .refused (.error (.unreachable none))
  | dropped : Means read .dropped (.error (.unreachable none))

section

variable {α : Type} {read : Answer → Except ExecutorError α} {send : Outgoing → Reply}

/-- A reply means one thing at most. -/
theorem Means.unique {r : Reply} {v w : Except ExecutorError α} (hv : Means read r v)
    (hw : Means read r w) : v = w := by
  cases hv <;> cases hw <;> simp_all

theorem next_eq_stay {o : Outgoing} {a : Answer} : next o a = .stay ↔ a.reference? = none := by
  cases hr : a.reference? with
  | none => simp [next, hr]
  | some r =>
    cases hu : r.resolve? o.url with
    | none => simp [next, hr, hu]
    | some u => cases h : isWebScheme u.scheme <;> simp [next, hr, hu, h]

/-- What is read of a request whose reply settles the matter is what the reply means. -/
theorem read_of_settled {z : Outgoing} {r : Reply} {x : Outcome} (h : turn z r = .settled x)
    (v : Except ExecutorError α) : x.read? read = some v ↔ Means read r v := by
  -- there is one thing at most that the reply means, so it is enough to know it
  have hone : ∀ {w}, x.read? read = some w → Means read r w →
      (x.read? read = some v ↔ Means read r v) := by
    intro w hread hw
    rw [hread, Option.some.injEq]
    constructor
    · rintro rfl
      exact hw
    · exact hw.unique
  cases r with
  | refused =>
    cases h
    exact hone rfl .refused
  | dropped =>
    cases h
    exact hone rfl .dropped
  | silent =>
    cases h
    constructor
    · rintro ⟨⟩
    · rintro ⟨⟩
  | answer a =>
    simp only [turn] at h
    cases hnext : next z a with
    | stay =>
      simp only [hnext] at h
      cases h
      exact hone rfl (.stands (next_eq_stay.mp hnext))
    | astray =>
      simp only [hnext] at h
      cases h
      refine hone rfl (.elsewhere ?_)
      intro hnone
      rw [next_eq_stay.mpr hnone] at hnext
      cases hnext
    | follow o' =>
      simp only [hnext] at h
      cases h

/-- An answer that leads on refers to another place. -/
theorem reference?_of_leadsTo {z o' : Outgoing} (h : LeadsTo send z o') :
    ∃ a, send z = .answer a ∧ a.reference? ≠ none := by
  obtain ⟨a, hsend, hnext⟩ := h
  refine ⟨a, hsend, ?_⟩
  intro hnone
  rw [next_eq_stay.mpr hnone] at hnext
  cases hnext

/-- What is read at the end of a trail is what the last reply means. -/
theorem Trail.read_iff {limit : Nat} {o : Outgoing} {sent : List Outgoing} {x : Outcome}
    (h : Trail send limit o sent x) (v : Except ExecutorError α) :
    x.read? read = some v ↔ ∃ z, sent.getLast? = some z ∧ Means read (send z) v := by
  obtain ⟨z, hlast, hend⟩ := h.last
  have hthis : (∃ z, sent.getLast? = some z ∧ Means read (send z) v) ↔ Means read (send z) v := by
    simp [hlast]
  rw [hthis]
  rcases hend with hsettled | ⟨_, rfl, o', hleads⟩
  · exact read_of_settled hsettled v
  · obtain ⟨a, hsend, hrefers⟩ := reference?_of_leadsTo hleads
    have helsewhere : Means read (send z) (.error (.unreachable none)) := hsend ▸ .elsewhere hrefers
    constructor
    · rintro ⟨⟩
      exact helsewhere
    · intro hv
      rw [hv.unique helsewhere]
      rfl

/-- Asking sends a trail of requests, and what is read is what the last reply means. -/
theorem trail_of_consult (read : Answer → Except ExecutorError α) (send : Outgoing → Reply)
    {o : Outgoing} (hweb : isWebScheme o.url.scheme = true) :
    ∃ x, Trail send followLimit o (consult read o send).1 x ∧
      ∀ v, (consult read o send).2 = some v ↔
        ∃ z, (consult read o send).1.getLast? = some z ∧ Means read (send z) v := by
  have htrail := trail_of_exchange send hweb
  exact ⟨_, htrail, fun v => htrail.read_iff v⟩

/-- An answer that refers to no other place is read itself, after one request. -/
theorem consult_of_stands {o : Outgoing} {a : Answer} (hweb : isWebScheme o.url.scheme = true)
    (hsend : send o = .answer a) (hstands : a.reference? = none) :
    consult read o send = ([o], some (read a)) := by
  obtain ⟨x, htrail, hread⟩ := trail_of_consult read send hweb
  have halone : (consult read o send).1 = [o] := by
    apply htrail.alone
    intro o' hleads
    obtain ⟨a', hsend', hrefers⟩ := reference?_of_leadsTo hleads
    rw [hsend] at hsend'
    cases hsend'
    exact hrefers hstands
  have hmeans : Means read (send o) (read a) := hsend ▸ .stands hstands
  exact Prod.ext halone ((hread (read a)).mpr ⟨o, by rw [halone]; rfl, hmeans⟩)

end

end BuildBroker.Executor
