import BuildBroker.Config.Compose

/-!
# Layers of Settings

A broker is configured by four layers: the command line, the environment, the settings file and the
defaults. This module says what the settings are as a property of the layers, and proves that
composing them gives just these.

Main statements:
- `Sources.InEffect`: the settings that some layers put into effect.
- `Sources.refusal?`: the first of the chosen values that cannot be used.
- `Sources.compose_cases`: composing the layers gives the one or the other.
- `Sources.DiffersBelow`: two sources that differ only in values that a higher layer overrules.
- `Sources.layering`: the four of them together.
-/

namespace BuildBroker.Config

/-! ## §1 The first layer that has a value -/

/-- Two columns of layers, highest first, that differ only below a layer which has a value. -/
def BelowWinner {α : Type} (xs ys : List (Option α)) : Prop :=
  ∀ n : Nat, xs[n]? ≠ ys[n]? →
    (∃ m < n, ∃ v, xs[m]? = some (some v)) ∧ ∃ m < n, ∃ v, ys[m]? = some (some v)

namespace BelowWinner

variable {α : Type} {x y : Option α} {xs ys : List (Option α)}

theorem head (h : BelowWinner (x :: xs) (y :: ys)) : x = y := by
  apply Classical.byContradiction
  intro hne
  obtain ⟨m, hm, -⟩ := (h 0 (by simpa using hne)).1
  omega

/-- Below a layer that says nothing the columns still differ only in what is overruled. -/
theorem tail (h : BelowWinner (none :: xs) (none :: ys)) : BelowWinner xs ys := by
  have shift : ∀ (zs : List (Option α)) (n : Nat),
      (∃ m < n + 1, ∃ v, (none :: zs)[m]? = some (some v)) →
        ∃ m < n, ∃ v, zs[m]? = some (some v) := by
    rintro zs n ⟨m, hm, v, hv⟩
    cases m with
    | zero => simp at hv
    | succ m => exact ⟨m, by omega, v, by simpa using hv⟩
  intro n hn
  obtain ⟨hx, hy⟩ := h (n + 1) (by simpa using hn)
  exact ⟨shift _ n hx, shift _ n hy⟩

theorem refl (xs : List (Option α)) : BelowWinner xs xs := fun _ hn => absurd rfl hn

/-- Below a value there may be anything. -/
theorem won (v : α) : BelowWinner (some v :: xs) (some v :: ys) := by
  intro n hn
  cases n with
  | zero => exact absurd rfl hn
  | succ n => exact ⟨⟨0, by omega, v, rfl⟩, ⟨0, by omega, v, rfl⟩⟩

/-- A layer that says nothing leaves the choice to the layers below it. -/
theorem passed (h : BelowWinner xs ys) : BelowWinner (none :: xs) (none :: ys) := by
  intro n hn
  cases n with
  | zero => exact absurd rfl hn
  | succ n =>
    obtain ⟨⟨m, hm, hx⟩, ⟨k, hk, hy⟩⟩ := h n (by simpa using hn)
    exact ⟨⟨m + 1, by omega, by simpa using hx⟩, ⟨k + 1, by omega, by simpa using hy⟩⟩

/-- What is overruled has no part in the value that is chosen. -/
theorem chosen (h : BelowWinner xs ys) : xs.findSome? id = ys.findSome? id := by
  induction xs generalizing ys with
  | nil =>
    cases ys with
    | nil => rfl
    | cons y ys =>
      obtain ⟨m, hm, -⟩ := (h 0 (by simp)).1
      omega
  | cons x xs ih =>
    cases ys with
    | nil =>
      obtain ⟨m, hm, -⟩ := (h 0 (by simp)).1
      omega
    | cons y ys =>
      -- the first layer is overruled by none, so it says the same in both columns
      have hhead := h.head
      subst hhead
      cases x with
      | some v => rfl
      | none =>
        show xs.findSome? id = ys.findSome? id
        exact ih h.tail

end BelowWinner

/-! ## §2 What the layers say -/

/-- The layers that somebody can set. -/
structure Sources where
  flags : Overrides
  /-- The environment. -/
  lookup : String → Option String
  file : FileLayer

/-- The settings that are texts. -/
inductive TextSetting where
  | listen
  | peer
  | executorUrl
deriving DecidableEq, Repr

def FileLayer.timeout? (file : FileLayer) : Timeout → Option Nat
  | .executor => file.executorTimeout
  | .fetch => file.fetchTimeout
  | .pickup => file.pickupTimeout

def Settings.timeout (s : Settings) : Timeout → Nat
  | .executor => s.executorTimeout
  | .fetch => s.fetchTimeout
  | .pickup => s.pickupTimeout

namespace Sources

/-- What comes of the layers. -/
def outcome (i : Sources) : Except ConfigError (Settings × List Warning) :=
  compose i.flags (.ofLookup i.lookup) i.file

/-- What the layers say about a text, highest first. There is no default for the peer address. -/
def texts (i : Sources) : TextSetting → List (Option String)
  | .listen => [i.flags.listen, i.lookup listenVariable, i.file.listen, some defaultListen]
  | .peer => [i.flags.peer, i.lookup peerVariable, i.file.peer]
  | .executorUrl =>
    [i.flags.executorUrl, i.lookup executorVariable, i.file.executorUrl, some defaultExecutorUrl]

/-- The texts that count: without blanks around them, and only if something is left. -/
def values (i : Sources) (x : TextSetting) : List (Option String) :=
  (i.texts x).map (·.bind Text.nonBlank)

/-- What the layers say about a timeout, highest first. -/
def counts (i : Sources) (t : Timeout) : List (Option Nat) :=
  [(i.lookup t.variableName).bind readMillis?, i.file.timeout? t, some t.default]

/-- The text of the first layer that has one. -/
def text? (i : Sources) (x : TextSetting) : Option String :=
  (i.values x).findSome? id

/-- The timeout of the first layer that has one. -/
def count? (i : Sources) (t : Timeout) : Option Nat :=
  (i.counts t).findSome? id

/-- The environment sets a timeout, but not to a count. -/
def isMalformed (i : Sources) (t : Timeout) : Bool :=
  ((i.lookup t.variableName).bind Text.nonBlank).isSome &&
    ((i.lookup t.variableName).bind readMillis?).isNone

/-! ## §3 What they put into effect -/

/-- The settings that the layers put into effect: the chosen values, all of which can be used. -/
structure InEffect (i : Sources) (s : Settings) : Prop where
  listen : ∃ text, i.text? .listen = some text ∧ Net.SocketAddress.ofText? text = some s.listen
  peer : i.text? .peer = some s.peer
  executorUrl : ∃ text, i.text? .executorUrl = some text ∧ Url.parse text = .ok s.executorUrl
  scheme : s.executorUrl.scheme = "http" ∨ s.executorUrl.scheme = "https"
  timeout : ∀ t, i.count? t = some (s.timeout t)
  nonzero : ∀ t, s.timeout t ≠ 0

/-- The warnings beside the settings. -/
def warnings (i : Sources) (s : Settings) : List Warning :=
  (([.executor, .fetch, .pickup] : List Timeout).filter i.isMalformed).map Warning.unparsed
    ++ (if isLocalPeer s.peer then [Warning.localPeer s.peer] else [])
    ++ (if s.pickupTimeout < s.fetchTimeout then [Warning.shortPickup] else [])

/-- Why a chosen text cannot be used. -/
def refuseText? : TextSetting → Option String → Option ConfigError
  | .listen, some text =>
    if (Net.SocketAddress.ofText? text).isNone then some (.invalidListen text) else none
  | .peer, none => some .missingPeer
  | .executorUrl, some text =>
    match Url.parse text with
    | .error cause => some (.invalidExecutorUrl text cause)
    | .ok url =>
      if url.scheme = "http" ∨ url.scheme = "https" then none else some (.unsupportedScheme text)
  | _, _ => none

/-- Why a chosen timeout cannot be used. -/
def refuseCount? (t : Timeout) (n : Option Nat) : Option ConfigError :=
  if n = some 0 then some (.zeroTimeout t) else none

/-- The first of the chosen texts that cannot be used. -/
def refusedText? (i : Sources) : Option ConfigError :=
  ([.listen, .peer, .executorUrl] : List TextSetting).findSome? fun x => refuseText? x (i.text? x)

/-- The first of the chosen timeouts that cannot be used. -/
def refusedCount? (i : Sources) : Option ConfigError :=
  ([.executor, .fetch, .pickup] : List Timeout).findSome? fun t => refuseCount? t (i.count? t)

/-- The first of the chosen values that cannot be used; the texts come before the timeouts. -/
def refusal? (i : Sources) : Option ConfigError :=
  i.refusedText?.or i.refusedCount?

theorem InEffect.unique {i : Sources} {s s' : Settings} (h : i.InEffect s) (h' : i.InEffect s') :
    s = s' := by
  obtain ⟨listen, hl, hlisten⟩ := h.listen
  obtain ⟨listen', hl', hlisten'⟩ := h'.listen
  obtain rfl : listen = listen' := by simpa [hl] using hl'
  obtain ⟨url, hu, hurl⟩ := h.executorUrl
  obtain ⟨url', hu', hurl'⟩ := h'.executorUrl
  obtain rfl : url = url' := by simpa [hu] using hu'
  -- each of the values is fixed by the sources
  have hpeer : s.peer = s'.peer := by simpa [h.peer] using h'.peer
  have htimeout : ∀ t, s.timeout t = s'.timeout t := by
    intro t
    simpa [h.timeout t] using h'.timeout t
  have hexecutor := htimeout .executor
  have hfetch := htimeout .fetch
  have hpickup := htimeout .pickup
  cases s
  cases s'
  simp_all [Settings.timeout]

/-- Values that are in effect can all be used. -/
theorem InEffect.not_refused {i : Sources} {s : Settings} (h : i.InEffect s) :
    i.refusal? = none := by
  obtain ⟨listen, hl, hlisten⟩ := h.listen
  obtain ⟨url, hu, hurl⟩ := h.executorUrl
  have hcount : ∀ t, refuseCount? t (i.count? t) = none := by
    intro t
    simp [refuseCount?, h.timeout t, h.nonzero t]
  simp [refusal?, refusedText?, refusedCount?, refuseText?, hl, hlisten, h.peer, hu, hurl, h.scheme,
    hcount]

/-! ## §4 Composing the layers -/

private theorem nonBlank_defaultListen : Text.nonBlank defaultListen = some defaultListen := by
  decide

private theorem nonBlank_defaultExecutorUrl :
    Text.nonBlank defaultExecutorUrl = some defaultExecutorUrl := by
  decide

/-- A count may stand among blanks, and a blank text is no count. -/
theorem readMillis?_nonBlank (s : Option String) :
    (s.bind Text.nonBlank).bind readMillis? = s.bind readMillis? := by
  cases s with
  | none => rfl
  | some s =>
    cases hblank : Text.allBlank s with
    | false => simp [Text.nonBlank_of_not_allBlank hblank, readMillis?]
    | true =>
      -- a blank text is left out on one side and read as an empty one on the other
      have hempty : Text.trim s = "" := by simpa [Text.allBlank] using hblank
      have hcount : Text.readCounter? "" = none := by decide
      simp [(Text.nonBlank_eq_none_iff s).mpr hblank, readMillis?, hempty, hcount]

theorem timeout_ofLookup (i : Sources) (t : Timeout) :
    EnvironmentLayer.timeout i.lookup t = (i.lookup t.variableName).bind readMillis? :=
  readMillis?_nonBlank _

theorem unparsed_ofLookup (i : Sources) :
    (EnvironmentLayer.ofLookup i.lookup).unparsed =
      ([.executor, .fetch, .pickup] : List Timeout).filter i.isMalformed := by
  have hsame : EnvironmentLayer.isUnparsed i.lookup = i.isMalformed := by
    funext t
    simp [EnvironmentLayer.isUnparsed, isMalformed, timeout_ofLookup, EnvironmentLayer.setting]
  simp [EnvironmentLayer.ofLookup, hsame]

/-- The choice among three layers, as composing makes it, with anything below them. -/
private theorem findSome?_layers (flag file : Option String) (lookup : String → Option String)
    (name : String) (below : List (Option String)) :
    (flag.bind Text.nonBlank :: (lookup name).bind Text.nonBlank :: file.bind Text.nonBlank
        :: below).findSome? id =
      (chooseText flag (EnvironmentLayer.setting lookup name) file).or (below.findSome? id) := by
  unfold EnvironmentLayer.setting
  cases hflag : flag.bind Text.nonBlank <;> cases (lookup name).bind Text.nonBlank <;>
    cases hfile : file.bind Text.nonBlank <;> simp [chooseText, hflag, hfile]

theorem text?_listen (i : Sources) :
    i.text? .listen = some ((chooseText i.flags.listen
      (EnvironmentLayer.setting i.lookup listenVariable) i.file.listen).getD defaultListen) := by
  simp only [text?, values, texts, List.map, findSome?_layers, Option.bind_some,
    nonBlank_defaultListen]
  exact Option.or_some

theorem text?_executorUrl (i : Sources) :
    i.text? .executorUrl = some ((chooseText i.flags.executorUrl
      (EnvironmentLayer.setting i.lookup executorVariable) i.file.executorUrl).getD
        defaultExecutorUrl) := by
  simp only [text?, values, texts, List.map, findSome?_layers, Option.bind_some,
    nonBlank_defaultExecutorUrl]
  exact Option.or_some

theorem text?_peer (i : Sources) :
    i.text? .peer =
      chooseText i.flags.peer (EnvironmentLayer.setting i.lookup peerVariable) i.file.peer := by
  simp only [text?, values, texts, List.map, findSome?_layers]
  exact Option.or_none

theorem count?_eq (i : Sources) (t : Timeout) :
    i.count? t =
      some (((EnvironmentLayer.timeout i.lookup t).or (i.file.timeout? t)).getD t.default) := by
  rw [timeout_ofLookup]
  cases henv : (i.lookup t.variableName).bind readMillis? <;> cases hfile : i.file.timeout? t <;>
    simp [count?, counts, henv, hfile]

/-- A timeout is refused only for being zero. -/
theorem chooseTimeout_eq (i : Sources) (t : Timeout) {n : Nat} (h : i.count? t = some n) :
    chooseTimeout t (EnvironmentLayer.timeout i.lookup t) (i.file.timeout? t) =
      match refuseCount? t (i.count? t) with
      | some e => .error e
      | none => .ok n := by
  rw [count?_eq, Option.some.injEq] at h
  rw [count?_eq, h, chooseTimeout, h]
  by_cases hzero : n = 0 <;> simp [refuseCount?, hzero]

/-- Composing goes on with the chosen timeouts, unless one of them is refused. -/
private theorem chooseTimeouts_eq {α : Type} (i : Sources) {n : Timeout → Nat}
    (h : ∀ t, i.count? t = some (n t)) (next : Nat → Nat → Nat → Except ConfigError α) :
    (do
      let executor ← chooseTimeout .executor (EnvironmentLayer.timeout i.lookup .executor)
        i.file.executorTimeout
      let fetch ← chooseTimeout .fetch (EnvironmentLayer.timeout i.lookup .fetch)
        i.file.fetchTimeout
      let pickup ← chooseTimeout .pickup (EnvironmentLayer.timeout i.lookup .pickup)
        i.file.pickupTimeout
      next executor fetch pickup) =
      match i.refusedCount? with
      | some e => .error e
      | none => next (n .executor) (n .fetch) (n .pickup) := by
  -- the timeouts are checked in this order, so the first one refused is the one reported
  have hexecutor := i.chooseTimeout_eq .executor (h .executor)
  have hfetch := i.chooseTimeout_eq .fetch (h .fetch)
  have hpickup := i.chooseTimeout_eq .pickup (h .pickup)
  simp only [FileLayer.timeout?] at hexecutor hfetch hpickup
  rw [hexecutor, hfetch, hpickup]
  simp only [refusedCount?, List.findSome?_cons]
  rcases refuseCount? .executor (i.count? .executor) with _ | e
  case some => rfl
  rcases refuseCount? .fetch (i.count? .fetch) with _ | e
  case some => rfl
  rcases refuseCount? .pickup (i.count? .pickup) with _ | e
  case some => rfl
  rfl

/-- No timeout is refused when none of them is zero. -/
private theorem nonzero_of_refusedCount? {i : Sources} {n : Timeout → Nat}
    (h : ∀ t, i.count? t = some (n t)) (hrefused : i.refusedCount? = none) (t : Timeout) :
    n t ≠ 0 := by
  have hallowed : refuseCount? t (i.count? t) = none := by
    apply List.findSome?_eq_none_iff.mp hrefused
    cases t <;> simp
  intro hzero
  rw [h t, hzero] at hallowed
  cases hallowed

/-- Composing the layers gives the settings that are in effect, with their warnings, or the first
chosen value that cannot be used. -/
theorem compose_cases (i : Sources) :
    (∃ s, i.InEffect s ∧ i.outcome = .ok (s, i.warnings s)) ∨
      ∃ e, i.refusal? = some e ∧ i.outcome = .error e := by
  obtain ⟨n, hn⟩ : ∃ n : Timeout → Nat, ∀ t, i.count? t = some (n t) := ⟨_, i.count?_eq⟩
  have hlisten := i.text?_listen
  have hurl := i.text?_executorUrl
  have hunparsed := i.unparsed_ofLookup
  simp only [EnvironmentLayer.ofLookup] at hunparsed
  simp only [outcome, compose, EnvironmentLayer.ofLookup, ← text?_peer, hunparsed,
    i.chooseTimeouts_eq hn]
  -- from here on only the chosen texts matter, not the layers they came from
  generalize (chooseText i.flags.listen _ i.file.listen).getD defaultListen = listen at hlisten ⊢
  generalize (chooseText i.flags.executorUrl _ i.file.executorUrl).getD defaultExecutorUrl = url
    at hurl ⊢
  -- the checks one after the other: as soon as one fails, its refusal is the first
  rcases haddress : Net.SocketAddress.ofText? listen with _ | address
  · refine .inr ⟨.invalidListen listen, ?_, rfl⟩
    simp [refusal?, refusedText?, refuseText?, hlisten, haddress]
  rcases hpeer : i.text? .peer with _ | peer
  · refine .inr ⟨.missingPeer, ?_, rfl⟩
    simp [refusal?, refusedText?, refuseText?, hlisten, haddress, hpeer]
  rcases hparse : Url.parse url with cause | u
  · refine .inr ⟨.invalidExecutorUrl url cause, ?_, rfl⟩
    simp [refusal?, refusedText?, refuseText?, hlisten, haddress, hpeer, hurl, hparse]
  by_cases hscheme : u.scheme = "http" ∨ u.scheme = "https"
  case neg =>
    refine .inr ⟨.unsupportedScheme url, ?_, ?_⟩
    · simp [refusal?, refusedText?, refuseText?, hlisten, haddress, hpeer, hurl, hparse, hscheme]
    · simp only [pure_bind, if_pos (not_or.mp hscheme)]
      rfl
  have hallowed : ¬(u.scheme ≠ "http" ∧ u.scheme ≠ "https") := fun h => not_or.mpr h hscheme
  have htexts : i.refusal? = i.refusedCount? := by
    simp [refusal?, refusedText?, refuseText?, hlisten, haddress, hpeer, hurl, hparse, hscheme]
  simp only [htexts, pure_bind, if_neg hallowed]
  rcases hrefused : i.refusedCount? with _ | e
  case some => exact .inr ⟨e, rfl, rfl⟩
  refine .inl ⟨⟨address, peer, u, n .executor, n .fetch, n .pickup⟩, ?_, rfl⟩
  refine ⟨⟨listen, hlisten, haddress⟩, hpeer, ⟨url, hurl, hparse⟩, hscheme, ?_, ?_⟩
  · intro t
    rw [hn]
    cases t <;> rfl
  · intro t
    cases t <;> exact nonzero_of_refusedCount? hn hrefused _

theorem outcome_ok_iff (i : Sources) (s : Settings) (w : List Warning) :
    i.outcome = .ok (s, w) ↔ i.InEffect s ∧ w = i.warnings s := by
  -- no other settings are in effect, and none at all when a value is refused
  rcases i.compose_cases with ⟨s', hs', hout⟩ | ⟨e, hrefused, hout⟩
  · rw [hout]
    constructor
    · intro h
      cases h
      exact ⟨hs', rfl⟩
    · rintro ⟨hs, rfl⟩
      rw [hs.unique hs']
  · rw [hout]
    constructor
    · intro h
      cases h
    · rintro ⟨hs, -⟩
      rw [hs.not_refused] at hrefused
      cases hrefused

theorem outcome_error_iff (i : Sources) (e : ConfigError) :
    i.outcome = .error e ↔ i.refusal? = some e := by
  rcases i.compose_cases with ⟨s, hs, hout⟩ | ⟨e', hrefused, hout⟩
  · simp [hout, hs.not_refused]
  · simp [hout, hrefused]

/-! ## §5 What has no part in the outcome -/

/-- The outcome depends on the chosen values only, and on which timeouts are malformed. -/
theorem outcome_congr {i j : Sources} (htext : ∀ x, i.text? x = j.text? x)
    (hcount : ∀ t, i.count? t = j.count? t) (hmalformed : ∀ t, i.isMalformed t = j.isMalformed t) :
    i.outcome = j.outcome := by
  -- the settings in effect for `i` are so for `j`, or both refuse the same
  rcases i.compose_cases with ⟨s, hs, hout⟩ | ⟨e, hrefused, hout⟩
  · have hs' : j.InEffect s := by
      refine ⟨?_, htext .peer ▸ hs.peer, ?_, hs.scheme, ?_, hs.nonzero⟩
      · rw [← htext]
        exact hs.listen
      · rw [← htext]
        exact hs.executorUrl
      · intro t
        rw [← hcount]
        exact hs.timeout t
    have hwarnings : i.warnings s = j.warnings s := by
      simp [warnings, funext hmalformed]
    rw [hout, hwarnings, ((outcome_ok_iff j s _).mpr ⟨hs', rfl⟩)]
  · have hrefused' : j.refusal? = some e := by
      simp only [← hrefused, refusal?, refusedText?, refusedCount?, htext, hcount]
    rw [hout, (outcome_error_iff j e).mpr hrefused']

/-- Two sources that differ only in values which a higher layer overrules, and in blanks. No layer
is above the environment where a timeout is concerned. -/
structure DiffersBelow (i j : Sources) : Prop where
  texts : ∀ x, BelowWinner (i.values x) (j.values x)
  counts : ∀ t, BelowWinner (i.counts t) (j.counts t)
  timeouts : ∀ t : Timeout, (i.lookup t.variableName).bind Text.nonBlank =
    (j.lookup t.variableName).bind Text.nonBlank

theorem DiffersBelow.outcome {i j : Sources} (h : i.DiffersBelow j) : i.outcome = j.outcome := by
  apply outcome_congr
  · exact fun x => (h.texts x).chosen
  · exact fun t => (h.counts t).chosen
  · -- a malformed timeout overrules nothing and is still warned of
    intro t
    have hparsed : (i.lookup t.variableName).bind readMillis? =
        (j.lookup t.variableName).bind readMillis? := by
      rw [← readMillis?_nonBlank, h.timeouts, readMillis?_nonBlank]
    simp [isMalformed, h.timeouts, hparsed]

/-- A text, unless it is blank. -/
def unlessBlank (s : Option String) : Option String :=
  s.filter fun s => !Text.allBlank s

/-- The sources without the blank texts in them. -/
def withoutBlanks (i : Sources) : Sources where
  flags := ⟨unlessBlank i.flags.listen, unlessBlank i.flags.peer, unlessBlank i.flags.executorUrl⟩
  lookup name := unlessBlank (i.lookup name)
  file := { i.file with
    listen := unlessBlank i.file.listen
    peer := unlessBlank i.file.peer
    executorUrl := unlessBlank i.file.executorUrl }

@[simp] theorem unlessBlank_bind (s : Option String) :
    (unlessBlank s).bind Text.nonBlank = s.bind Text.nonBlank := by
  cases s with
  | none => rfl
  | some s =>
    cases h : Text.allBlank s with
    | false => simp [unlessBlank, Option.filter_some, h]
    | true => simp [unlessBlank, Option.filter_some, h, (Text.nonBlank_eq_none_iff s).mpr]

theorem differsBelow_withoutBlanks (i : Sources) : i.withoutBlanks.DiffersBelow i := by
  have hcounts : ∀ t, i.withoutBlanks.counts t = i.counts t := by
    intro t
    have hfile : i.withoutBlanks.file.timeout? t = i.file.timeout? t := by cases t <;> rfl
    have henv : (unlessBlank (i.lookup t.variableName)).bind readMillis? =
        (i.lookup t.variableName).bind readMillis? := by
      rw [← readMillis?_nonBlank, unlessBlank_bind, readMillis?_nonBlank]
    simp only [counts, hfile]
    rw [← henv]
    rfl
  refine ⟨?_, ?_, fun t => unlessBlank_bind _⟩
  · intro x
    cases x <;> simp [values, texts, withoutBlanks, BelowWinner.refl]
  · intro t
    rw [hcounts]
    exact BelowWinner.refl _

/-- **The first layer that has a value decides.** The outcome of composing the layers is settings
exactly when the chosen values can all be used, and then it is these values and their warnings;
otherwise it is the first chosen value that cannot be used. Blank texts count as absent in every
layer, and what a higher layer overrules has no part in the outcome. -/
theorem layering (i : Sources) :
    (∀ s w, i.outcome = .ok (s, w) ↔ i.InEffect s ∧ w = i.warnings s) ∧
      (∀ e, i.outcome = .error e ↔ i.refusal? = some e) ∧
      (∀ j : Sources, i.withoutBlanks = j.withoutBlanks → i.outcome = j.outcome) ∧
      ∀ j, i.DiffersBelow j → i.outcome = j.outcome := by
  refine ⟨i.outcome_ok_iff, i.outcome_error_iff, ?_, fun j h => h.outcome⟩
  intro j hblank
  rw [← i.differsBelow_withoutBlanks.outcome, hblank, j.differsBelow_withoutBlanks.outcome]

/-- Sources with a value in every layer, most of them overruled and of no use. -/
def crowded : Sources where
  flags := ⟨some "127.0.0.1:7100", some "  ", none⟩
  lookup name :=
    if name = listenVariable then some "nowhere"
    else if name = peerVariable then some " ci.internal:5637 "
    else if name = Timeout.fetch.variableName then some "750"
    else if name = Timeout.pickup.variableName then some "soon"
    else none
  file :=
    ⟨some "nowhere else", some "", some "http://file-executor:4637", some 5000, some 0, some 500⟩

/-- The same without the values that are overruled. -/
def cleared : Sources where
  flags := ⟨some "127.0.0.1:7100", none, none⟩
  lookup name :=
    if name = peerVariable then some "ci.internal:5637"
    else if name = Timeout.fetch.variableName then some "750"
    else if name = Timeout.pickup.variableName then some "soon"
    else none
  file := ⟨none, none, some "http://file-executor:4637", some 5000, none, some 500⟩

/-- What both put into effect. -/
def crowdedSettings : Settings where
  listen := ⟨.v4 ⟨0x7f000001#32⟩, 0, 7100⟩
  peer := "ci.internal:5637"
  executorUrl :=
    ⟨"http", some ⟨"", "", .domain "file-executor", some 4637⟩, .segments [""], none, none⟩
  executorTimeout := 5000
  fetchTimeout := 750
  pickupTimeout := 500

theorem crowded_differsBelow_cleared : crowded.DiffersBelow cleared := by
  refine ⟨fun x => ?_, fun t => ?_, fun t => ?_⟩
  · cases x
    · exact BelowWinner.won _
    · exact BelowWinner.passed (BelowWinner.won _)
    · exact BelowWinner.refl _
  · cases t
    · exact BelowWinner.refl _
    · exact BelowWinner.won _
    · exact BelowWinner.refl _
  · cases t <;> rfl

theorem crowded_inEffect : crowded.InEffect crowdedSettings where
  listen := ⟨"127.0.0.1:7100", by decide, by decide⟩
  peer := by decide
  executorUrl := ⟨"http://file-executor:4637", by decide, by rfl⟩
  scheme := .inl rfl
  timeout := by
    intro t
    cases t <;> decide
  nonzero := by
    intro t
    cases t <;> decide

/-- Of a value in every layer most are overruled, and whether they could be used is not asked: the
outcome is the same without them. -/
theorem layering_of_crowded :
    crowded.DiffersBelow cleared ∧
      crowded.outcome = .ok (crowdedSettings, [.unparsed .pickup, .shortPickup]) ∧
      cleared.outcome = .ok (crowdedSettings, [.unparsed .pickup, .shortPickup]) := by
  obtain ⟨hok, -, -, hbelow⟩ := layering crowded
  have houtcome := (hok crowdedSettings [.unparsed .pickup, .shortPickup]).mpr
    ⟨crowded_inEffect, by decide⟩
  refine ⟨crowded_differsBelow_cleared, houtcome, ?_⟩
  rw [← hbelow cleared crowded_differsBelow_cleared]
  exact houtcome

end Sources

end BuildBroker.Config
