import BuildBroker.Build.Delegation
import BuildBroker.Proofs.Url.Reading
import Mathlib.Data.List.Basic

/-!
# Peer Addresses in URLs

The address under which the broker is reached is set in front of the paths that executors call back.
It is meant to be a `host:port`, but any text may stand there, and what it says to a reader of URLs
can be more: a query or a fragment that begins in it swallows the path behind it, and slashes alone
name no host at all.

Main statements:
- `Peer.isReadable`: whether a URL can be read at all with the address in it.
- `Peer.Reads`: what a URL says that is read with the address in it.
- `Peer.parse_ok`, `Peer.parse_error`: reading a callback.
- `Peer.forBuild_isOk_iff`: whether there are callbacks depends on the address only.
-/

namespace BuildBroker.Peer

open Url

/-! ## §1 What an Address Says -/

/-- The address as a reader of URLs sees it: without tabs and line ends. -/
def seen (peer : String) : List Char :=
  (CallbackUrls.peerText peer).filter fun c => !isSkipped c

/-- Whether a query or a fragment begins in the address. -/
def isMarked (peer : String) : Bool :=
  (seen peer).any isMark

/-- What the address says before its first mark, without slashes in front. -/
def place (peer : String) : List Char :=
  ((seen peer).takeWhile fun c => !isMark c).dropWhile (isSlash true)

/-- The text that is read as the authority of callbacks. Behind slashes alone this is the first
segment of their path. -/
def authority (peer : String) : List Char :=
  if place peer = [] ∧ isMarked peer = false then "builds".toList
  else (place peer).takeWhile fun c => !isSlash true c

/-- The segments that the address puts in front of the path of a callback. -/
def lead (peer : String) : List String :=
  match (place peer).dropWhile fun c => !isSlash true c with
  | [] => []
  | _ :: cs => (splitSegments true cs).foldl enter []

/-- Whether callbacks can be read with the address in them. -/
def isReadable (peer : String) : Bool :=
  CallbackUrls.peerText peer ≠ [] && (readAuthority "http" false (authority peer)).isOk

/-- The path of a callback with the names behind the address. -/
def path (peer : String) (names : List String) : UrlPath :=
  if isMarked peer then pathOf true false ((place peer).dropWhile fun c => !isSlash true c)
  else if place peer = [] then .segments names.tail
  else .segments (lead peer ++ names)

/-- What a URL says that is read with the address in it. -/
structure Reads (peer : String) (names : List String) (u : Url) : Prop where
  authority : ∃ a, readAuthority "http" false (authority peer) = .ok a ∧ u.authority = some a
  path : u.path = path peer names
  /-- A query or a fragment comes from the address. -/
  clean : (u.query = none ∧ u.fragment = none) ↔ isMarked peer = false

/-! ## §2 Reading a Callback -/

section Slashes

variable {p : Char → Bool} {xs : List Char}

/-- A test that fails somewhere is not tried any further. -/
theorem takeWhile_append_of_fails (ys : List Char) (h : ∃ c ∈ xs, p c = false) :
    (xs ++ ys).takeWhile p = xs.takeWhile p := by
  rw [List.takeWhile_append, if_neg]
  intro hlength
  have hall : xs.takeWhile p = xs := (List.takeWhile_prefix p).eq_of_length hlength
  obtain ⟨c, hc, hfails⟩ := h
  rw [List.takeWhile_eq_self_iff.mp hall c hc] at hfails
  cases hfails

theorem takeWhile_append_stop {c : Char} (hc : p c = false) (ys : List Char) :
    (xs ++ c :: ys).takeWhile p = xs.takeWhile p := by
  rw [List.takeWhile_append]
  split
  · rename_i hlength
    simp [hc, (List.takeWhile_prefix p).eq_of_length hlength]
  · rfl

theorem dropWhile_append_stop {c : Char} (hc : p c = false) (ys : List Char) :
    (xs ++ c :: ys).dropWhile p = xs.dropWhile p ++ c :: ys := by
  rw [List.dropWhile_append]
  split
  · rename_i hnone
    simp [hc, List.isEmpty_iff.mp hnone]
  · rfl

/-- Nothing is dropped where the test fails everywhere. -/
theorem dropWhile_of_fails (h : ∀ c ∈ xs, p c = false) : xs.dropWhile p = xs := by
  cases xs with
  | nil => rfl
  | cons c xs => rw [List.dropWhile_cons_of_neg (by simp [h c])]

/-- What is left behind the characters that pass a test begins with one that fails. -/
theorem fails_of_dropWhile {c : Char} {cs : List Char} (h : xs.dropWhile p = c :: cs) :
    p c = false := by
  have hstop := List.head?_dropWhile_not p xs
  rw [h] at hstop
  exact hstop

end Slashes

section Reading

variable {peer scheme name : String} {names : List String}

/-- The characters of a path of plain names are dropped nowhere and mark nothing. -/
theorem quiet_of_mem_pathChars (hplain : ∀ name ∈ names, Text.IsPlain name.toList) :
    ∀ c ∈ pathChars names, isEndBlank c = false ∧ isSkipped c = false ∧ isMark c = false := by
  have hquiet : ∀ c ∈ Text.plainChars,
      isEndBlank c = false ∧ isSkipped c = false ∧ isMark c = false :=
    Text.isPlain_plainChars.forall (by decide)
  intro c hc
  rcases mem_pathChars hplain hc with rfl | hchar
  · decide
  · exact hquiet c hchar

/-- What is read of the text of a callback. -/
theorem clean_callback (peer : String) (hscheme : IsWeb scheme) (hnames : names ≠ [])
    (hplain : ∀ name ∈ names, Text.IsPlain name.toList) :
    clean (scheme.toList ++ "://".toList ++ CallbackUrls.peerText peer ++ pathChars names) =
      scheme.toList ++ ':' :: '/' :: '/' :: (seen peer ++ pathChars names) := by
  have hquiet := quiet_of_mem_pathChars hplain
  -- nothing is skipped but inside the peer: the scheme and the path are clean, and so are the ends
  rw [clean_of_ends]
  · have hscheme' : scheme.toList.filter (fun c => !isSkipped c) = scheme.toList := by
      rcases hscheme with rfl | rfl
      · decide
      · decide
    have hmark : "://".toList.filter (fun c => !isSkipped c) = [':', '/', '/'] := by decide
    have hpath : (pathChars names).filter (fun c => !isSkipped c) = pathChars names := by
      apply List.filter_eq_self.mpr
      intro c hc
      simp [(hquiet c hc).2.1]
    rw [List.filter_append, List.filter_append, List.filter_append, hscheme', hmark, hpath]
    simp [seen]
  · intro c hc
    rcases hscheme with rfl | rfl
    · cases hc
      decide
    · cases hc
      decide
  · -- the last character is one of the path
    intro c hc
    have hsome : pathChars names ≠ [] := by
      cases names with
      | nil => exact absurd rfl hnames
      | cons name names => simp [pathChars]
    rw [List.getLast?_append_of_ne_nil _ hsome] at hc
    exact (hquiet c (List.mem_of_getLast? hc)).1

theorem front_of_marked (hmarked : isMarked peer = true) (rest : List Char) :
    (seen peer ++ rest).takeWhile (fun c => !isMark c) =
      (seen peer).takeWhile fun c => !isMark c := by
  obtain ⟨c, hc, hmark⟩ := List.any_eq_true.mp hmarked
  exact takeWhile_append_of_fails rest ⟨c, hc, by simp [hmark]⟩

theorem front_of_unmarked (hunmarked : isMarked peer = false) {rest : List Char}
    (hrest : ∀ c ∈ rest, isMark c = false) :
    (seen peer ++ rest).takeWhile (fun c => !isMark c) = seen peer ++ rest := by
  apply List.takeWhile_eq_self_iff.mpr
  intro c hc
  rcases List.mem_append.mp hc with hpeer | hpath
  · have hnone := List.any_eq_false.mp hunmarked c hpeer
    simpa using hnone
  · simp [hrest c hpath]

theorem place_of_unmarked (hunmarked : isMarked peer = false) :
    place peer = (seen peer).dropWhile (isSlash true) := by
  have hwhole := front_of_unmarked hunmarked (List.forall_mem_nil _)
  rw [List.append_nil] at hwhole
  rw [place, hwhole]

/-- Behind slashes alone the first name of the path is read as the authority. -/
theorem parts_of_no_place (names : List String) (hunmarked : isMarked peer = false)
    (hplace : place peer = []) (hname : Text.IsPlain name.toList) (hsome : name.toList ≠ []) :
    authorityText (seen peer ++ pathChars (name :: names)) = name.toList ∧
      pathText (seen peer ++ pathChars (name :: names)) = pathChars names := by
  have hgoes : ∀ c ∈ name.toList, isSlash true c = false := hname.forall (by decide)
  have hgoes' : ∀ c ∈ name.toList, (!isSlash true c) = true := by simpa using hgoes
  have hrest : (seen peer ++ pathChars (name :: names)).dropWhile (isSlash true) =
      name.toList ++ pathChars names := by
    rw [place_of_unmarked hunmarked] at hplace
    obtain ⟨c, cs, hcs⟩ := List.exists_cons_of_ne_nil hsome
    have hc : ¬c = '/' ∧ ¬c = '\\' := by simpa [isSlash] using hgoes c (by simp [hcs])
    rw [List.dropWhile_append, hplace]
    simp [pathChars, hcs, hc, isSlash]
  rw [authorityText, pathText, hrest, List.takeWhile_append_of_pos hgoes',
    List.dropWhile_append_of_pos hgoes']
  cases names with
  | nil => simp [pathChars]
  | cons name' names => simp [pathChars, isSlash]

/-- Behind a place the path begins at its first slash. -/
theorem parts_of_place (name : String) (names : List String) (hunmarked : isMarked peer = false)
    (hplace : place peer ≠ []) :
    authorityText (seen peer ++ pathChars (name :: names)) =
        (place peer).takeWhile (fun c => !isSlash true c) ∧
      pathText (seen peer ++ pathChars (name :: names)) =
        (place peer).dropWhile (fun c => !isSlash true c) ++ pathChars (name :: names) := by
  have hrest : (seen peer ++ pathChars (name :: names)).dropWhile (isSlash true) =
      place peer ++ pathChars (name :: names) := by
    rw [place_of_unmarked hunmarked] at hplace ⊢
    rw [List.dropWhile_append, if_neg (by simpa using hplace)]
  have hstop : (!isSlash true '/') = false := by decide
  rw [authorityText, pathText, hrest]
  exact ⟨takeWhile_append_stop hstop _, dropWhile_append_stop hstop _⟩

/-- Behind a place the path goes on with the names. -/
theorem pathOf_place (hplain : ∀ n ∈ name :: names, Text.IsPlain n.toList) :
    pathOf true false
        ((place peer).dropWhile (fun c => !isSlash true c) ++ pathChars (name :: names)) =
      .segments (lead peer ++ (name :: names)) := by
  cases hrest : (place peer).dropWhile fun c => !isSlash true c with
  | nil =>
    have hlead : lead peer = [] := by rw [lead, hrest]
    rw [hlead]
    exact pathOf_names hplain
  | cons c cs =>
    -- the rest of the address is walked first, and the names come behind it
    have hlead : lead peer = (splitSegments true cs).foldl enter [] := by rw [lead, hrest]
    have hslash : isSlash true c = true := by simpa using fails_of_dropWhile hrest
    rw [List.cons_append, pathOf_slash hslash, walk_names cs hplain, hlead]

/-- The authority and the path that are read of a callback. -/
theorem parts_of_callback (peer : String)
    (hplain : ∀ n ∈ "builds" :: name :: names, Text.IsPlain n.toList) :
    authorityText ((seen peer ++ pathChars ("builds" :: name :: names)).takeWhile
        fun c => !isMark c) = authority peer ∧
      pathOf true false (pathText ((seen peer ++ pathChars ("builds" :: name :: names)).takeWhile
        fun c => !isMark c)) = path peer ("builds" :: name :: names) := by
  cases hmarked : isMarked peer with
  | true =>
    -- the first mark is in the address, so the names are not looked at
    rw [front_of_marked hmarked, authority, path, if_neg (by simp [hmarked]), if_pos hmarked]
    exact ⟨rfl, rfl⟩
  | false =>
    rw [front_of_unmarked hmarked fun c hc => (quiet_of_mem_pathChars hplain c hc).2.2]
    -- if nothing but slashes is there, the first name becomes the authority
    by_cases hplace : place peer = []
    · obtain ⟨hauthority, hpath⟩ := parts_of_no_place (name :: names) hmarked hplace
        (hplain "builds" (by simp)) (by decide)
      rw [hauthority, hpath, authority, path, if_pos ⟨hplace, hmarked⟩, if_neg (by simp [hmarked]),
        if_pos hplace, pathOf_names fun n hn => hplain n (by simp [hn])]
      exact ⟨rfl, rfl⟩
    · obtain ⟨hauthority, hpath⟩ := parts_of_place "builds" (name :: names) hmarked hplace
      rw [hauthority, hpath, authority, path, if_neg fun h => hplace h.1,
        if_neg (by simp [hmarked]), if_neg hplace, pathOf_place hplain]
      exact ⟨rfl, rfl⟩

/-- What is read of a callback: its authority and its path come from the address as told, and a
query or a fragment is there exactly if it begins in the address. -/
theorem ofChars_callback (peer : String) (hscheme : IsWeb scheme)
    (hplain : ∀ n ∈ "builds" :: name :: names, Text.IsPlain n.toList) :
    ∃ query fragment,
      (query = none ∧ fragment = none ↔ isMarked peer = false) ∧
      Url.ofChars (scheme.toList ++ "://".toList ++ CallbackUrls.peerText peer ++
          pathChars ("builds" :: name :: names)) =
        (readAuthority "http" false (authority peer)).map fun a =>
          ⟨scheme, some a, path peer ("builds" :: name :: names), query, fragment⟩ := by
  obtain ⟨query, fragment, hclean, hread⟩ :=
    ofChars_of_web hscheme (clean_callback peer hscheme (by simp) hplain)
  obtain ⟨hauthority, hpath⟩ := parts_of_callback peer hplain
  rw [hauthority, hpath] at hread
  refine ⟨query, fragment, ?_, hread⟩
  -- a mark is one of the address, as plain names hold none
  rw [hclean, isMarked, List.any_eq_false]
  constructor
  · intro hnone c hc
    simp [hnone c (List.mem_append_left _ hc)]
  · intro hnone c hc
    rcases List.mem_append.mp hc with hpeer | hpath
    · simpa using hnone c hpeer
    · exact (quiet_of_mem_pathChars hplain c hpath).2.2

end Reading

/-! ## §3 Callbacks of a Build -/

section Callbacks

variable {peer scheme raw : String} {id : BuildId} {tail : List String}

/-- The names in the path of a callback. -/
def names (id : BuildId) (tail : List String) : List String :=
  "builds" :: id.toText :: tail

theorem plain_names (id : BuildId) (htail : ∀ n ∈ tail, Text.IsPlain n.toList) :
    ∀ n ∈ names id tail, Text.IsPlain n.toList := by
  have hbuilds : Text.IsPlain "builds".toList := by decide
  intro n hn
  rcases List.mem_cons.mp hn with rfl | hn
  · exact hbuilds
  · rcases List.mem_cons.mp hn with rfl | hn
    · rw [Uuid.toText, String.toList_ofList]
      exact id.plain_toChars
    · exact htail n hn

theorem parse_ok (hscheme : IsWeb scheme) (htail : ∀ n ∈ tail, Text.IsPlain n.toList)
    (hraw : raw.toList = scheme.toList ++ "://".toList ++ CallbackUrls.peerText peer ++
      pathChars (names id tail)) {a : Authority}
    (ha : readAuthority "http" false (authority peer) = .ok a) :
    ∃ u, CallbackUrls.parse raw = .ok u ∧ Reads peer (names id tail) u := by
  obtain ⟨query, fragment, hclean, hread⟩ :=
    ofChars_callback peer hscheme (plain_names id htail)
  refine ⟨⟨scheme, some a, path peer (names id tail), query, fragment⟩, ?_, ?_⟩
  · rw [CallbackUrls.parse, Url.parse, hraw, names, hread, ha]
    rfl
  · constructor
    · exact ⟨a, ha, rfl⟩
    · dsimp only
    · exact hclean

theorem parse_error (hscheme : IsWeb scheme) (htail : ∀ n ∈ tail, Text.IsPlain n.toList)
    (hraw : raw.toList = scheme.toList ++ "://".toList ++ CallbackUrls.peerText peer ++
      pathChars (names id tail)) {e : UrlError}
    (he : readAuthority "http" false (authority peer) = .error e) :
    CallbackUrls.parse raw = .error (.invalidUrl (raw ++ ": " ++ e.message)) := by
  obtain ⟨query, fragment, _, hread⟩ :=
    ofChars_callback peer hscheme (plain_names id htail)
  rw [CallbackUrls.parse, Url.parse, hraw, names, hread, he]
  rfl

end Callbacks

section ForBuild

variable {peer : String} {id : BuildId}

/-- The names behind the address in the three callbacks are plain. -/
theorem plain_tails : ∀ tail ∈ [["log", "input"], ["bits"], ["result"]],
    ∀ n ∈ tail, Text.IsPlain n.toList := by
  decide

/-- What stands between the scheme and the last names of a callback. -/
def middle (peer : String) (id : BuildId) : String :=
  String.ofList (CallbackUrls.peerText peer) ++ "/builds/" ++ id.toText

theorem toList_logs (peer : String) (id : BuildId) :
    ("ws://" ++ middle peer id ++ "/log/input").toList =
      "ws".toList ++ "://".toList ++ CallbackUrls.peerText peer ++
        pathChars (names id ["log", "input"]) := by
  simp [middle, names, pathChars]

theorem toList_bits (peer : String) (id : BuildId) :
    ("http://" ++ middle peer id ++ "/bits").toList =
      "http".toList ++ "://".toList ++ CallbackUrls.peerText peer ++
        pathChars (names id ["bits"]) := by
  simp [middle, names, pathChars]

theorem toList_result (peer : String) (id : BuildId) :
    ("http://" ++ middle peer id ++ "/result").toList =
      "http".toList ++ "://".toList ++ CallbackUrls.peerText peer ++
        pathChars (names id ["result"]) := by
  simp [middle, names, pathChars]

theorem forBuild_of_empty (h : CallbackUrls.peerText peer = []) :
    CallbackUrls.forBuild peer id = .error (.invalidUrl "peer address cannot be empty") := by
  rw [CallbackUrls.forBuild, h]
  rfl

/-- The callbacks are read one after the other, once anything is left of the address. -/
theorem forBuild_of_nonempty (h : CallbackUrls.peerText peer ≠ []) :
    CallbackUrls.forBuild peer id = (do
      let logs ← CallbackUrls.parse ("ws://" ++ middle peer id ++ "/log/input")
      let bits ← CallbackUrls.parse ("http://" ++ middle peer id ++ "/bits")
      let result ← CallbackUrls.parse ("http://" ++ middle peer id ++ "/result")
      return { logs, bits, result }) := by
  have hsome : (String.ofList (CallbackUrls.peerText peer)).isEmpty = false := by
    rw [Bool.eq_false_iff, Ne, String.isEmpty_iff]
    intro hempty
    exact h (by simpa using congrArg String.toList hempty)
  rw [CallbackUrls.forBuild]
  simp only [hsome, middle]
  rfl

theorem isReadable_iff : isReadable peer = true ↔ CallbackUrls.peerText peer ≠ [] ∧
    ∃ a, readAuthority "http" false (authority peer) = .ok a := by
  rw [isReadable, Bool.and_eq_true, decide_eq_true_iff]
  cases readAuthority "http" false (authority peer) with
  | error e => simp [Except.isOk, Except.toBool]
  | ok a => simp [Except.isOk, Except.toBool]

/-- An address that can be read gives the three callbacks of every build. -/
theorem forBuild_of_readable (h : isReadable peer = true) (id : BuildId) :
    ∃ urls, CallbackUrls.forBuild peer id = .ok urls ∧
      Reads peer (names id ["log", "input"]) urls.logs ∧
      Reads peer (names id ["bits"]) urls.bits ∧
      Reads peer (names id ["result"]) urls.result := by
  obtain ⟨hsome, a, ha⟩ := isReadable_iff.mp h
  obtain ⟨logs, hlogs, hreadslogs⟩ :=
    parse_ok (.inl rfl) (plain_tails ["log", "input"] (by simp)) (toList_logs peer id) ha
  obtain ⟨bits, hbits, hreadsbits⟩ :=
    parse_ok (.inr rfl) (plain_tails ["bits"] (by simp)) (toList_bits peer id) ha
  obtain ⟨result, hresult, hreadsresult⟩ :=
    parse_ok (.inr rfl) (plain_tails ["result"] (by simp)) (toList_result peer id) ha
  refine ⟨⟨logs, bits, result⟩, ?_, hreadslogs, hreadsbits, hreadsresult⟩
  rw [forBuild_of_nonempty hsome, hlogs, hbits, hresult]
  rfl

/-- An address that cannot be read gives no callbacks of any build. -/
theorem forBuild_of_unreadable (h : isReadable peer = false) (id : BuildId) :
    ∃ e, CallbackUrls.forBuild peer id = .error e := by
  by_cases hsome : CallbackUrls.peerText peer = []
  · exact ⟨_, forBuild_of_empty hsome⟩
  · cases ha : readAuthority "http" false (authority peer) with
    | ok a =>
      rw [isReadable_iff.mpr ⟨hsome, a, ha⟩] at h
      cases h
    | error e =>
      -- the first of the three is refused already
      have hlogs :=
        parse_error (.inl rfl) (plain_tails ["log", "input"] (by simp)) (toList_logs peer id) ha
      rw [forBuild_of_nonempty hsome, hlogs]
      exact ⟨_, rfl⟩

/-- Whether there are callbacks depends on the address only, not on the build. -/
theorem forBuild_isOk_iff : (∃ urls, CallbackUrls.forBuild peer id = .ok urls) ↔
    isReadable peer = true := by
  constructor
  · rintro ⟨urls, hurls⟩
    cases hreadable : isReadable peer with
    | true => rfl
    | false =>
      obtain ⟨e, he⟩ := forBuild_of_unreadable hreadable id
      rw [hurls] at he
      cases he
  · intro h
    obtain ⟨urls, hurls, _⟩ := forBuild_of_readable h id
    exact ⟨urls, hurls⟩

-- slashes alone are no address, and neither is a port out of range
example : isReadable "ci.internal:5637" = true ∧ isReadable "/" = false ∧
    isReadable "ci.internal:99999" = false := by decide +kernel

end ForBuild

end BuildBroker.Peer
