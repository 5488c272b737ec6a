import BuildBroker.CommandLine.Startup
import BuildBroker.Http.Handler
import BuildBroker.Proofs.Build.Peers
import BuildBroker.Proofs.Config.Layering
import BuildBroker.Proofs.Coordinator.Stories
import BuildBroker.Proofs.Outcomes
import BuildBroker.Proofs.Url.Hosts

/-!
# Callbacks That Reach the Broker

An executor calls back under the peer address, and the router has to find the build behind it. Of a
peer address nothing is asked when settings are loaded but that it is not blank, and not even that of
a layer that is given. What callbacks need is more, and this module says exactly what.

Main statements:
- `Url.EndsAt`, `Url.IsBound`: a callback whose path ends where it should, and one that the router
  takes to the build.
- `Peer.endsAt_iff`, `Peer.isBound_iff`: what an address needs for either.
- `Config.peers_of_load`: which addresses are accepted.
- `Coordinator.internal_iff`: when an upload can end in an internal error.
- `usable_callbacks`: all of it together.
-/

namespace BuildBroker

open Http

/-! ## §1 Callbacks and Routes -/

namespace Url

/-- There is neither a query nor a fragment, and the path ends in that of a route of the build. -/
structure EndsAt (u : Url) (id : BuildId) (r : BuildRoute) : Prop where
  query : u.query = none
  fragment : u.fragment = none
  path : ∃ front, u.path = .segments (front ++ "builds" :: id.toText :: r.segments)

/-- There is neither a query nor a fragment, and the router takes the path to the build. -/
structure IsBound (u : Url) (id : BuildId) (r : BuildRoute) : Prop where
  query : u.query = none
  fragment : u.fragment = none
  route : ∃ segment, Route.ofPath? u.path.toText.toList = some (.build segment r) ∧
    (segmentText? segment).map parseId = some (.ok id)

end Url

/-- Something holds of the three callbacks of a build, each with the route that it is meant for. -/
def CallbackUrls.All (urls : CallbackUrls) (P : Url → BuildRoute → Prop) : Prop :=
  P urls.logs (.log .input) ∧ P urls.bits .bits ∧ P urls.result .result

/-- The router finds the id in its written form. -/
theorem parseId_segment (id : BuildId) :
    (segmentText? id.toChars).map parseId = some (.ok id) := by
  have hplain : Text.IsPlain id.toChars := id.plain_toChars
  have hescape : 0x25 ∉ Bytes.ofChars id.toChars := by
    rw [Text.ofChars_of_plain hplain]
    intro hmem
    obtain ⟨c, hc, heq⟩ := List.mem_map.mp hmem
    exact (Text.octet_of_plain c (hplain c hc)).2.2.1 heq
  have htext : segmentText? id.toChars = some id.toText := by
    rw [segmentText?, Percent.decode_of_no_escape hescape, Text.toText?_of_plain hplain, Uuid.toText]
  rw [htext, Option.map_some, parseId, BuildId.ofText_toText]

/-- No two routes of a build have the same path. -/
theorem find?_route {rest : List (List Char)} {r : BuildRoute} :
    BuildRoute.all.find? (fun r => r.segments.map String.toList = rest) = some r ↔
      r.segments.map String.toList = rest := by
  constructor
  · intro h
    simpa using List.find?_some h
  · rintro rfl
    cases r with
    | log side => cases side <;> decide
    | record | bits | result | hijack | abort => decide

/-- Which paths the router takes to a route of a build. -/
theorem ofPath?_eq_some {names : List String} (h : ∀ n ∈ names, '/' ∉ n.toList) {r : BuildRoute}
    {segment : List Char} :
    Route.ofPath? (UrlPath.segments names).toText.toList = some (.build segment r) ↔
      names.map String.toList = "builds".toList :: segment :: r.segments.map String.toList ∧
        ¬(segment = [] ∧ r.segments.map String.toList = []) := by
  have hsplit : Host.splitOn '/' (UrlPath.segments names).toText.toList =
      [] :: names.map String.toList := by
    rw [Url.toList_segments, Url.splitOn_eq]
    exact Url.splitOn_pathChars h List.not_mem_nil
  rw [Route.ofPath?, hsplit]
  -- which name the first one is plays no part
  generalize "builds".toList = first
  cases names.map String.toList with
  | nil => simp
  | cons s rest =>
    cases rest with
    | nil =>
      dsimp only
      split
      · simp
      · split
        · simp
        · simp
    | cons id rest =>
      dsimp only
      split
      · rename_i hrefused
        constructor
        · intro h
          cases h
        · rintro ⟨heq, hsome⟩
          obtain ⟨rfl, rfl, rfl⟩ : s = first ∧ id = segment ∧
            rest = r.segments.map String.toList := by simpa only [List.cons.injEq] using heq
          exact absurd (by simpa using hrefused) hsome
      · rename_i htaken
        have htaken' : s = first ∧ ¬(id = [] ∧ rest = []) := by simpa using htaken
        obtain ⟨rfl, hsome⟩ := htaken'
        rw [Option.map_eq_some_iff]
        constructor
        · rintro ⟨r', hr', heq⟩
          cases heq
          obtain rfl := find?_route.mp hr'
          exact ⟨rfl, hsome⟩
        · rintro ⟨heq, -⟩
          obtain ⟨rfl, rfl⟩ : id = segment ∧ rest = r.segments.map String.toList := by
            simpa only [List.cons.injEq, true_and] using heq
          exact ⟨r, find?_route.mpr rfl, rfl⟩

/-! ## §2 What an Address Needs -/

namespace Peer

open Url

variable {peer : String} {id : BuildId} {r : BuildRoute} {u : Url}

theorem plain_segments (r : BuildRoute) : ∀ n ∈ r.segments, Text.IsPlain n.toList := by
  cases r with
  | log side => cases side <;> decide
  | record | bits | result | hijack | abort => decide

/-- Plain names hold no slash. -/
theorem no_slash_names (id : BuildId) (r : BuildRoute) :
    ∀ n ∈ names id r.segments, '/' ∉ n.toList := by
  intro n hn hmem
  exact absurd (plain_names id (plain_segments r) n hn _ hmem) (by decide)

/-- What the address puts in front of a path holds no slash. -/
theorem no_slash_lead (peer : String) : ∀ n ∈ lead peer, '/' ∉ n.toList := by
  unfold lead
  split
  · simp
  · apply not_mem_of_mem_enter
    · intro seg hseg
      rw [splitSegments, splitOn_eq] at hseg
      exact not_mem_of_mem_splitOn hseg
    · simp

/-- The path of a callback ends where it should exactly if the address says a place, and nothing that
would take the path as a query or a fragment. -/
theorem endsAt_iff (h : Reads peer (names id r.segments) u) :
    u.EndsAt id r ↔ isMarked peer = false ∧ place peer ≠ [] := by
  constructor
  · rintro ⟨hquery, hfragment, front, hpath⟩
    have hunmarked := h.clean.mp ⟨hquery, hfragment⟩
    refine ⟨hunmarked, ?_⟩
    intro hplace
    -- the first name has gone to the authority, so the path is too short
    rw [h.path, path, if_neg (by simp [hunmarked]), if_pos hplace] at hpath
    have hlength := congrArg List.length (UrlPath.segments.inj hpath)
    simp [names] at hlength
    omega
  · rintro ⟨hunmarked, hplace⟩
    obtain ⟨hquery, hfragment⟩ := h.clean.mpr hunmarked
    refine ⟨hquery, hfragment, lead peer, ?_⟩
    rw [h.path, path, if_neg (by simp [hunmarked]), if_neg hplace, names]

/-- The first name of a path below a build is no id. -/
theorem not_parsed_builds (id : BuildId) :
    (segmentText? "builds".toList).map parseId ≠ some (.ok id) := by
  have hrefused : (segmentText? "builds".toList).map (fun raw => (parseId raw).toOption) =
      some none := by decide
  intro h
  cases htext : segmentText? "builds".toList with
  | none =>
    rw [htext] at hrefused
    cases hrefused
  | some raw =>
    rw [htext, Option.map_some] at h hrefused
    rw [Option.some.inj h] at hrefused
    cases hrefused

/-- The written form of an id is no name of the router. -/
theorem toChars_ne_builds (id : BuildId) : id.toText.toList ≠ "builds".toList := by
  intro h
  have hlength := congrArg List.length h
  rw [Uuid.toText, String.toList_ofList, id.length_toChars] at hlength
  cases hlength

/-- A path with anything in front of the names of a callback is not taken to the build. -/
theorem lead_eq_nil {front : List String} {segment : List Char}
    (hnames : (front ++ names id r.segments).map String.toList =
      "builds".toList :: segment :: r.segments.map String.toList)
    (hparse : (segmentText? segment).map parseId = some (.ok id)) : front = [] := by
  match front with
  | [] => rfl
  | [name] =>
    -- the router would read the first name of the callback as the id
    have hsegment : "builds".toList = segment :=
      List.head_eq_of_cons_eq (List.tail_eq_of_cons_eq hnames)
    exact absurd (hsegment ▸ hparse) (not_parsed_builds id)
  | name :: name' :: front =>
    have hlength := congrArg List.length hnames
    simp [names] at hlength
    omega

/-- The router takes a callback to its build exactly if besides the address puts nothing in front of
the path. -/
theorem isBound_iff (h : Reads peer (names id r.segments) u) :
    u.IsBound id r ↔ isMarked peer = false ∧ place peer ≠ [] ∧ lead peer = [] := by
  constructor
  · rintro ⟨hquery, hfragment, segment, hroute, hparse⟩
    have hunmarked := h.clean.mp ⟨hquery, hfragment⟩
    rw [h.path, path, if_neg (by simp [hunmarked])] at hroute
    by_cases hplace : place peer = []
    · -- the path begins with the id, where the router wants another name
      rw [if_pos hplace, ofPath?_eq_some] at hroute
      · obtain ⟨hnames, -⟩ := hroute
        have hfirst : id.toText.toList = "builds".toList := List.head_eq_of_cons_eq hnames
        exact absurd hfirst (toChars_ne_builds id)
      · intro n hn
        exact no_slash_names id r n (List.mem_of_mem_tail hn)
    · rw [if_neg hplace, ofPath?_eq_some] at hroute
      · exact ⟨hunmarked, hplace, lead_eq_nil hroute.1 hparse⟩
      · intro n hn
        rcases List.mem_append.mp hn with hlead | hname
        · exact no_slash_lead peer n hlead
        · exact no_slash_names id r n hname
  · rintro ⟨hunmarked, hplace, hlead⟩
    obtain ⟨hquery, hfragment⟩ := h.clean.mpr hunmarked
    refine ⟨hquery, hfragment, id.toChars, ?_, parseId_segment id⟩
    have hid : id.toText.toList = id.toChars := by rw [Uuid.toText, String.toList_ofList]
    rw [h.path, path, if_neg (by simp [hunmarked]), if_neg hplace, hlead, List.nil_append,
      ofPath?_eq_some (no_slash_names id r)]
    refine ⟨by simp [names, hid], fun hnone => ?_⟩
    -- an id is never written as nothing
    have hlength := id.length_toChars
    rw [hnone.1] at hlength
    cases hlength

/-- Every callback of a build is read for its own route. -/
theorem reads_of_forBuild {urls : CallbackUrls} (h : CallbackUrls.forBuild peer id = .ok urls) :
    urls.All fun u r => Reads peer (names id r.segments) u := by
  obtain ⟨urls', hurls', hlogs, hbits, hresult⟩ :=
    forBuild_of_readable (forBuild_isOk_iff.mp ⟨urls, h⟩) id
  obtain rfl : urls = urls' := Except.ok.inj (h.symm.trans hurls')
  exact ⟨hlogs, hbits, hresult⟩

/-- What is needed of each callback alike is needed of all three. -/
theorem all_iff {urls : CallbackUrls} {P Q : Url → BuildRoute → Prop} {R : Prop}
    (h : urls.All Q) (hiff : ∀ u r, Q u r → (P u r ↔ R)) : urls.All P ↔ R := by
  obtain ⟨hlogs, hbits, hresult⟩ := h
  constructor
  · intro hall
    exact (hiff _ _ hlogs).mp hall.1
  · intro hR
    exact ⟨(hiff _ _ hlogs).mpr hR, (hiff _ _ hbits).mpr hR, (hiff _ _ hresult).mpr hR⟩

theorem all_endsAt_iff {urls : CallbackUrls} (h : CallbackUrls.forBuild peer id = .ok urls) :
    (urls.All fun u r => u.EndsAt id r) ↔ isMarked peer = false ∧ place peer ≠ [] :=
  all_iff (reads_of_forBuild h) fun _ _ => endsAt_iff

theorem all_isBound_iff {urls : CallbackUrls} (h : CallbackUrls.forBuild peer id = .ok urls) :
    (urls.All fun u r => u.IsBound id r) ↔
      isMarked peer = false ∧ place peer ≠ [] ∧ lead peer = [] :=
  all_iff (reads_of_forBuild h) fun _ _ => isBound_iff

end Peer

/-! ## §3 Which Addresses Are Accepted -/

namespace Config

variable {tree : FileTree} {options : LoadOptions} {flags : Overrides} {env : Env} {l : Loaded}

/-- The address in effect is trimmed, and something is left of it. -/
theorem Sources.InEffect.nonBlank_peer {i : Sources} {s : Settings} (h : i.InEffect s) :
    Text.nonBlank s.peer = some s.peer := by
  -- it has been trimmed when its layer was chosen, and a blank one is never chosen
  obtain ⟨layer, hlayer, hchosen⟩ := List.exists_of_findSome?_eq_some h.peer
  obtain ⟨text, -, rfl⟩ := List.mem_map.mp hlayer
  obtain ⟨x, -, hx⟩ := Option.bind_eq_some_iff.mp hchosen
  exact Text.nonBlank_of_nonBlank hx

/-- Loading over a layer composes it with a file. -/
theorem compose_of_loadOver {layer : EnvironmentLayer} {read : Bool}
    (h : loadOver tree options flags layer read = .ok l) :
    ∃ file, compose flags layer file = .ok (l.settings, l.warnings) := by
  obtain ⟨path, -, h⟩ := Outcome.of_bind_eq_ok h
  cases path with
  | some path =>
    obtain ⟨file, -, h⟩ := Outcome.of_bind_eq_ok h
    obtain ⟨⟨settings, warnings⟩, hcompose, h⟩ := Outcome.of_bind_eq_ok h
    cases h
    exact ⟨file, hcompose⟩
  | none =>
    obtain ⟨file, -, h⟩ := Outcome.of_bind_eq_ok h
    obtain ⟨⟨settings, warnings⟩, hcompose, h⟩ := Outcome.of_bind_eq_ok h
    cases h
    exact ⟨file, hcompose⟩

/-- What is loaded is what the layers put into effect. -/
theorem inEffect_of_load (h : load tree options flags env = .ok l) :
    ∃ i : Sources, i.InEffect l.settings := by
  obtain ⟨⟨vars, read⟩, -, h⟩ := Outcome.of_bind_eq_ok h
  obtain ⟨file, hcompose⟩ := compose_of_loadOver h
  have houtcome : (Sources.mk flags vars.get? file).outcome = .ok (l.settings, l.warnings) :=
    hcompose
  exact ⟨_, ((Sources.outcome_ok_iff _ _ _).mp houtcome).1⟩

/-- The settings that come of an address alone. -/
def settingsOf (peer : String) : Settings where
  listen := ⟨.v4 ⟨0#32⟩, 0, 5637⟩
  peer
  executorUrl :=
    ⟨"http", some ⟨"", "", .ipv4 ⟨0x7f000001#32⟩, some 4637⟩, .segments [""], none, none⟩
  executorTimeout := 30000
  fetchTimeout := 1000
  pickupTimeout := 60000

/-- A layer that sets an address, if it is given, and nothing else. -/
def EnvironmentLayer.ofPeer (given : Option String) : EnvironmentLayer :=
  ⟨none, none, given, none, none, none, none, []⟩

section Alone

variable {flag given : Option String} {peer : String}

/-- Nothing but an address has to be set, on the command line or in a layer that is given. -/
theorem compose_peer (h : chooseText flag given none = some peer) :
    ∃ w, compose ⟨none, flag, none⟩ (.ofPeer given) .empty = .ok (settingsOf peer, w) := by
  -- what is not set has a default that can be read
  have hlisten : Net.SocketAddress.ofText? defaultListen = some (settingsOf peer).listen := by rfl
  have hurl : Url.parse defaultExecutorUrl = .ok (settingsOf peer).executorUrl := by rfl
  have hunset : chooseText none none none = none := rfl
  unfold compose
  simp only [EnvironmentLayer.ofPeer, FileLayer.empty, h, hunset, Option.getD_none, hlisten, hurl]
  exact ⟨_, rfl⟩

theorem loadOver_peer (h : chooseText flag given none = some peer) :
    ∃ l, loadOver ⟨[], []⟩ ⟨none, none⟩ ⟨none, flag, none⟩ (.ofPeer given) false = .ok l ∧
      l.settings.peer = peer := by
  obtain ⟨w, hw⟩ := compose_peer h
  -- there is no file, so nothing but composing is left
  have hload : loadOver ⟨[], []⟩ ⟨none, none⟩ ⟨none, flag, none⟩ (.ofPeer given) false =
      (compose ⟨none, flag, none⟩ (.ofPeer given) .empty).map
        fun p => ⟨p.1, p.2, none, false⟩ := rfl
  rw [hload, hw]
  exact ⟨_, rfl, rfl⟩

end Alone

/-- Of an address in a layer that is given nothing is asked. -/
theorem peers_of_loadOver (peer : String) :
    ∃ tree options flags layer read l, loadOver tree options flags layer read = .ok l ∧
      l.settings.peer = peer := by
  have hchosen : chooseText none (some peer) none = some peer := rfl
  exact ⟨_, _, _, _, _, loadOver_peer hchosen⟩

/-- Loading asks of an address that it is trimmed and not blank, and nothing else. -/
theorem peers_of_load (peer : String) :
    (∃ tree options flags env l, load tree options flags env = .ok l ∧ l.settings.peer = peer) ↔
      Text.nonBlank peer = some peer := by
  constructor
  · rintro ⟨tree, options, flags, env, l, hload, rfl⟩
    obtain ⟨i, heffect⟩ := inEffect_of_load hload
    exact heffect.nonBlank_peer
  · intro h
    have hchosen : chooseText (some peer) none none = some peer := by simp [chooseText, h]
    have hempty : EnvironmentLayer.ofEnv .empty = .ofPeer none := by decide
    have hvars : loadEnvFile ⟨[], []⟩ none .empty = .ok (.empty, false) := rfl
    refine ⟨⟨[], []⟩, ⟨none, none⟩, ⟨none, some peer, none⟩, .empty, ?_⟩
    rw [load, hvars]
    show ∃ l, loadOver ⟨[], []⟩ ⟨none, none⟩ ⟨none, some peer, none⟩ (.ofEnv .empty) false =
      .ok l ∧ _
    rw [hempty]
    exact loadOver_peer hchosen

end Config

/-! ## §4 Uploads That End in an Internal Error -/

namespace Coordinator

variable {settings : CoordinatorSettings} {steps : List CoordinatorStep} {c : Coordinator}
variable {id : BuildId} {b : Build} {u : Nat}

/-- In no run does an upload end in an internal error if the address can be read. -/
theorem not_internal_of_readable (hread : Peer.isReadable settings.peer = true)
    (h : (Coordinator.mk settings .empty).play steps = some c)
    (hb : c.registry.find? id = some b) (message : String) :
    b.stage? u ≠ some (.ended (.error (.internal message))) := by
  intro hu
  have hpast := (recalled_of_play h hb).past u _ hu
  generalize hstory : story u _ = events at hpast
  -- of all ways to end only a missing address ends so
  cases hpast with
  | unprepared _ herror =>
    obtain ⟨urls, hurls⟩ := Peer.forBuild_isOk_iff.mpr hread
    rw [hurls] at herror
    cases herror

/-- An upload claims its build. -/
def claiming : List CoordinatorStep :=
  [.create ⟨7⟩ ⟨⟨2026, 1, 1⟩, 0, 0⟩ ⟨"image", "", "", .empty⟩,
    .build ⟨7⟩ (.upload ⟨none, .ofBytes [1]⟩), .build ⟨7⟩ (.uploadTurn 0 0)]

theorem prepares_of_claiming (settings : CoordinatorSettings) :
    ∃ c b, (Coordinator.mk settings .empty).play claiming = some c ∧ c.settings = settings ∧
      c.registry.find? ⟨7⟩ = some b ∧ b.stage? 0 = some .preparing :=
  ⟨_, _, rfl, rfl, rfl, rfl⟩

/-- If the address cannot be read, an upload that has claimed its build ends in an internal error. -/
theorem internal_of_unreadable (hread : Peer.isReadable settings.peer = false) :
    ∃ c b message, (Coordinator.mk settings .empty).play
        (claiming ++ [.build ⟨7⟩ (.uploadTurn 0 0)]) = some c ∧
      c.registry.find? ⟨7⟩ = some b ∧
      b.stage? 0 = some (.ended (.error (.internal message))) := by
  obtain ⟨c, b, hplay, hsettings, hb, hu⟩ := prepares_of_claiming settings
  obtain ⟨e, he⟩ := Peer.forBuild_of_unreadable hread b.id
  obtain ⟨x, hx, hstage⟩ := Option.map_eq_some_iff.mp hu
  have hturn : b.uploadTurn? c.settings.peer c.settings.pickupTimeout 0 0 =
      some (b.setUpload 0 (.ended (.error (.internal e.message)))) := by
    simp [Build.uploadTurn?, hx, hstage, hsettings, he]
  obtain ⟨c', hmodify, hb'⟩ := modify?_of_find? hb
    (f := fun b => b.uploadTurn? c.settings.peer c.settings.pickupTimeout 0 0) hturn rfl
  have hstep : c.step? (.build ⟨7⟩ (.uploadTurn 0 0)) = some c' := hmodify
  refine ⟨c', _, e.message, ?_, hb', Build.stage?_setUpload_self hu _⟩
  rw [play, List.foldlM_append, ← play, hplay]
  show (c.step? (.build ⟨7⟩ (.uploadTurn 0 0))).bind some = some c'
  rw [hstep, Option.bind_some]

/-- Uploads can end in an internal error exactly if the address cannot be read. -/
theorem internal_iff (settings : CoordinatorSettings) :
    (∃ steps c id b u message, (Coordinator.mk settings .empty).play steps = some c ∧
      c.registry.find? id = some b ∧ b.stage? u = some (.ended (.error (.internal message)))) ↔
      Peer.isReadable settings.peer = false := by
  constructor
  · rintro ⟨steps, c, id, b, u, message, hplay, hb, hu⟩
    rw [← Bool.not_eq_true]
    intro hread
    exact not_internal_of_readable hread hplay hb message hu
  · intro hread
    obtain ⟨c, b, message, hplay, hb, hu⟩ := internal_of_unreadable hread
    exact ⟨_, c, ⟨7⟩, b, 0, message, hplay, hb, hu⟩

end Coordinator

/-! ## §5 What Loading Asks and What Callbacks Need -/

/-- **Usable callbacks.** Of a peer address loading asks that it is trimmed and not blank, and of one
in a layer that is given it asks nothing. Whether there are callbacks depends on the address only: its
authority has to be one, also if it has to be borrowed from the path. The callbacks then end in the
paths of their routes exactly if no query and no fragment begins in the address and something is left
of it behind slashes, and the router takes them to the build exactly if besides the address puts no
segment in front. With any settings uploads can end in an internal error exactly if there are no
callbacks. -/
theorem usable_callbacks (peer : String) :
    ((∃ tree options flags env l, Config.load tree options flags env = .ok l ∧
        l.settings.peer = peer) ↔ Text.nonBlank peer = some peer) ∧
    (∃ tree options flags layer read l, Config.loadOver tree options flags layer read = .ok l ∧
      l.settings.peer = peer) ∧
    (∀ id, (∃ urls, CallbackUrls.forBuild peer id = .ok urls) ↔ Peer.isReadable peer = true) ∧
    (∀ id urls, CallbackUrls.forBuild peer id = .ok urls →
      ((urls.All fun u r => u.EndsAt id r) ↔
        Peer.isMarked peer = false ∧ Peer.place peer ≠ []) ∧
      ((urls.All fun u r => u.IsBound id r) ↔
        Peer.isMarked peer = false ∧ Peer.place peer ≠ [] ∧ Peer.lead peer = [])) ∧
    ∀ s : Config.Settings, s.peer = peer →
      ((∃ steps c id b u message,
          (Coordinator.mk (CommandLine.coordinatorSettings s) .empty).play steps = some c ∧
          c.registry.find? id = some b ∧
          b.stage? u = some (.ended (.error (.internal message)))) ↔
        Peer.isReadable peer = false) := by
  refine ⟨Config.peers_of_load peer, Config.peers_of_loadOver peer,
    fun _ => Peer.forBuild_isOk_iff, ?_, ?_⟩
  · intro id urls hurls
    exact ⟨Peer.all_endsAt_iff hurls, Peer.all_isBound_iff hurls⟩
  -- the coordinator has the peer from its settings as they are
  · rintro s rfl
    have hpeer : (CommandLine.coordinatorSettings s).peer = s.peer := rfl
    rw [← hpeer]
    exact Coordinator.internal_iff _

end BuildBroker
