import BuildBroker.Url.Parse
import BuildBroker.Proofs.Text.Written
import Mathlib.Data.List.TakeWhile

/-!
# How URLs of the Web Are Read

The text behind the scheme of a URL of the web falls into parts at its marks: the authority behind
the slashes, the path behind the authority, and the query and the fragment. Whatever stands in front
of them, plain segments at the end of a path are kept as they are.

Main statements:
- `clean_of_ends`: what is read of a text without blanks at its ends.
- `ofChars_of_web`: the parts of a URL of the web.
- `walk_append`, `walk_plain`: segments one after the other.
- `splitOn_pathChars`: the segments of a written path.
-/

namespace BuildBroker.Url

/-! ## §1 Cuts -/

/-- Tabs and line ends are dropped, and nothing else if there is no blank at the ends. -/
theorem clean_of_ends {cs : List Char} (hfirst : ∀ c ∈ cs.head?, isEndBlank c = false)
    (hlast : ∀ c ∈ cs.getLast?, isEndBlank c = false) :
    clean cs = cs.filter fun c => !isSkipped c := by
  -- both ends are trimmed alike, the second one from behind
  have hkept : ∀ {l : List Char}, (∀ c ∈ l.head?, isEndBlank c = false) →
      l.dropWhile isEndBlank = l := by
    intro l hl
    cases l with
    | nil => rfl
    | cons c l => simp [hl c rfl]
  have hback : cs.reverse.dropWhile isEndBlank = cs.reverse := by
    apply hkept
    rw [List.head?_reverse]
    exact hlast
  rw [clean, hkept hfirst, hback, List.reverse_reverse]

theorem cut_fst (test : Char → Bool) (cs : List Char) :
    (cut test cs).1 = cs.takeWhile fun c => !test c := by
  unfold cut
  split
  · rename_i hnone
    rw [List.dropWhile_eq_nil_iff] at hnone
    exact (List.takeWhile_eq_self_iff.mpr hnone).symm
  · rfl

theorem cut_snd_eq_none {test : Char → Bool} {cs : List Char} :
    (cut test cs).2 = none ↔ ∀ c ∈ cs, test c = false := by
  unfold cut
  split
  · rename_i hnone
    rw [List.dropWhile_eq_nil_iff] at hnone
    simpa using hnone
  · rename_i hsome
    have hmarked : cs.dropWhile (fun c => !test c) ≠ [] := by
      rw [hsome]
      simp
    rw [Ne, List.dropWhile_eq_nil_iff] at hmarked
    simpa using hmarked

/-- Whether a query or a fragment begins at the character. -/
def isMark (c : Char) : Bool :=
  c = '?' || c = '#'

/-- Whether the scheme is one under which executors call back. -/
def IsWeb (scheme : String) : Prop :=
  scheme = "ws" ∨ scheme = "http"

theorem splitScheme?_of_web {scheme : String} (h : IsWeb scheme) (rest : List Char) :
    splitScheme? (scheme.toList ++ ':' :: rest) = some (scheme, rest) := by
  rcases h with rfl | rfl
  · rfl
  · rfl

/-! ## §2 Authorities -/

theorem isSpecial_of_web {scheme : String} (h : IsWeb scheme) : isSpecial scheme = true := by
  rcases h with rfl | rfl
  · rfl
  · rfl

theorem readPort_of_web {scheme : String} (h : IsWeb scheme) (ds : List Char) :
    readPort scheme ds = readPort "http" ds := by
  have hport : defaultPort? scheme = defaultPort? "http" := by
    rcases h with rfl | rfl
    · rfl
    · rfl
  simp only [readPort, hport]

/-- Both schemes of the web read an authority in the same way, whatever follows it. -/
theorem readAuthority_of_web {scheme : String} (h : IsWeb scheme) (more : Bool) (cs : List Char) :
    readAuthority scheme more cs = readAuthority "http" false cs := by
  have hspecial : isSpecial scheme = isSpecial "http" := (isSpecial_of_web h).trans rfl
  rcases hsplit : splitUser cs with ⟨user, host⟩
  unfold readAuthority
  simp only [hsplit, hspecial, readPort_of_web h]
  cases host with
  | nil =>
    -- an empty host is refused whether anything follows or not
    simp [splitHost, isSpecial_of_web (.inr rfl)]
    intro _ _
    rfl
  | cons c host => simp

/-- The text of the authority, which ends at a slash. -/
def authorityText (cs : List Char) : List Char :=
  (cs.dropWhile (isSlash true)).takeWhile fun c => !isSlash true c

/-- The text of the path, which begins at a slash. -/
def pathText (cs : List Char) : List Char :=
  (cs.dropWhile (isSlash true)).dropWhile fun c => !isSlash true c

theorem readHierarchy_of_web {scheme : String} (h : IsWeb scheme) (more : Bool) (cs : List Char) :
    readHierarchy scheme more cs = (readAuthority "http" false (authorityText cs)).map
      fun a => (some a, pathOf true false (pathText cs)) := by
  have hfile : scheme ≠ "file" := by
    rcases h with rfl | rfl
    · decide
    · decide
  have hpath : (cs.dropWhile (isSlash true)).drop (authorityText cs).length = pathText cs := by
    have hparts : authorityText cs ++ pathText cs = cs.dropWhile (isSlash true) :=
      List.takeWhile_append_dropWhile
    rw [← hparts, List.drop_left]
  -- the path is what the length of the authority leaves of the text
  unfold readHierarchy
  rw [if_neg hfile, if_pos (isSpecial_of_web h)]
  show (do
    let a ← readAuthority scheme more (authorityText cs)
    pure (some a, pathOf true false
      ((cs.dropWhile (isSlash true)).drop (authorityText cs).length))) = _
  rw [readAuthority_of_web h, hpath]
  cases readAuthority "http" false (authorityText cs) with
  | error e => rfl
  | ok a => rfl

@[simp] theorem authorityText_slashes (cs : List Char) :
    authorityText ('/' :: '/' :: cs) = authorityText cs := by
  simp [authorityText, isSlash]

@[simp] theorem pathText_slashes (cs : List Char) : pathText ('/' :: '/' :: cs) = pathText cs := by
  simp [pathText, isSlash]

/-! ## §3 Whole URLs -/

/-- What is left in front of the query and the fragment ends at the first mark of either. -/
theorem cut_marks (cs : List Char) :
    (cut (· = '?') (cut (· = '#') cs).1).1 = cs.takeWhile fun c => !isMark c := by
  rw [cut_fst, cut_fst, List.takeWhile_takeWhile]
  congr 1
  funext c
  simp [isMark]

/-- There is neither a query nor a fragment exactly if there is no mark of either. -/
theorem cuts_eq_none {cs : List Char} :
    ((cut (· = '?') (cut (· = '#') cs).1).2 = none ∧ (cut (· = '#') cs).2 = none) ↔
      ∀ c ∈ cs, isMark c = false := by
  rw [cut_snd_eq_none, cut_snd_eq_none, cut_fst]
  constructor
  · rintro ⟨hquery, hfragment⟩ c hc
    -- without a fragment the query is looked for in the whole text
    have hwhole : cs.takeWhile (fun c => !decide (c = '#')) = cs := by
      apply List.takeWhile_eq_self_iff.mpr
      intro d hd
      simpa using hfragment d hd
    rw [hwhole] at hquery
    simp only [isMark, hquery c hc, hfragment c hc, Bool.or_self]
  -- without any mark both cuts leave the whole text
  · intro hnone
    have hboth : ∀ c ∈ cs, ¬c = '?' ∧ ¬c = '#' := by
      intro c hc
      simpa [isMark] using hnone c hc
    refine ⟨fun c hc => ?_, fun c hc => ?_⟩
    · simpa using (hboth c ((List.takeWhile_subset _) hc)).1
    · simpa using (hboth c hc).2

/-- The parts of a URL of the web. Query and fragment are there if their marks are. -/
theorem ofChars_of_web {scheme : String} (h : IsWeb scheme) {raw cs : List Char}
    (hclean : clean raw = scheme.toList ++ ':' :: '/' :: '/' :: cs) :
    ∃ query fragment,
      (query = none ∧ fragment = none ↔ ∀ c ∈ cs, isMark c = false) ∧
      ofChars raw =
        (readAuthority "http" false (authorityText (cs.takeWhile fun c => !isMark c))).map fun a =>
          ⟨scheme, some a, pathOf true false (pathText (cs.takeWhile fun c => !isMark c)),
            query, fragment⟩ := by
  have hslash : isMark '/' = false := by decide
  refine ⟨(cut (· = '?') (cut (· = '#') ('/' :: '/' :: cs)).1).2.map fun cs =>
      String.ofList (Percent.encode Percent.inSpecialQuery cs),
    (cut (· = '#') ('/' :: '/' :: cs)).2.map fun cs =>
      String.ofList (Percent.encode Percent.inFragment cs), ?_, ?_⟩
  · rw [Option.map_eq_none_iff, Option.map_eq_none_iff, cuts_eq_none]
    simp [hslash]
  -- up to the first mark of either kind: that is where authority and path are
  · have hfront : (cut (· = '?') (cut (· = '#') ('/' :: '/' :: cs)).1).1 =
        '/' :: '/' :: cs.takeWhile fun c => !isMark c := by
      rw [cut_marks]
      simp [hslash]
    unfold ofChars
    rw [hclean, splitScheme?_of_web h]
    simp only [readHierarchy_of_web h, isSpecial_of_web h, hfront, authorityText_slashes,
      pathText_slashes, if_true]
    cases readAuthority "http" false (authorityText (cs.takeWhile fun c => !isMark c)) with
    | error e => rfl
    | ok a => rfl

/-! ## §4 Segments -/

/-- Splitting at a mark is what the library has for it. -/
theorem splitOn_eq (mark : Char) (cs : List Char) : Host.splitOn mark cs = cs.splitOn mark := by
  unfold Host.splitOn
  induction cs with
  | nil => rfl
  | cons c cs ih =>
    rw [List.foldr_cons, ih, List.splitOn_cons_eq_if_modifyHead]
    cases hparts : cs.splitOn mark with
    | nil => exact absurd hparts (List.splitOn_ne_nil mark cs)
    | cons p ps => simp

/-- No mark is left in the parts between the marks. -/
theorem not_mem_of_mem_splitOn {mark : Char} {cs part : List Char} (h : part ∈ cs.splitOn mark) :
    mark ∉ part := by
  induction cs generalizing part with
  | nil =>
    rw [List.splitOn_nil, List.mem_singleton] at h
    simp [h]
  | cons c cs ih =>
    rw [List.splitOn_cons_eq_if_modifyHead] at h
    split at h
    · rcases List.mem_cons.mp h with rfl | hpart
      · simp
      · exact ih hpart
    · rename_i hc
      -- the character goes to the first part
      cases hparts : cs.splitOn mark with
      | nil => exact absurd hparts (List.splitOn_ne_nil mark cs)
      | cons p ps =>
        rw [hparts, List.modifyHead_cons] at h
        rcases List.mem_cons.mp h with rfl | hpart
        · have hp : mark ∉ p := ih (by simp [hparts])
          have hne : mark ≠ c := fun heq => hc (by simp [heq])
          simp [hp, hne]
        · exact ih (by simp [hparts, hpart])

/-- The text of a path: a slash before every segment. -/
def pathChars (names : List String) : List Char :=
  names.flatMap fun name => '/' :: name.toList

theorem toList_segments (names : List String) :
    (UrlPath.segments names).toText.toList = pathChars names := by
  induction names with
  | nil => rfl
  | cons name names ih =>
    have hstep : (UrlPath.segments (name :: names)).toText =
        "/" ++ name ++ (UrlPath.segments names).toText := by
      simp [UrlPath.toText]
    rw [hstep, String.toList_append, String.toList_append, ih]
    rfl

/-- The segments of a written path, with what stands before its first slash. -/
theorem splitOn_pathChars {names : List String} (h : ∀ name ∈ names, '/' ∉ name.toList)
    {front : List Char} (hfront : '/' ∉ front) :
    (front ++ pathChars names).splitOn '/' = front :: names.map String.toList := by
  -- behind its first slash the path is a name and a shorter path again
  induction names generalizing front with
  | nil => simpa [pathChars] using List.splitOn_eq_singleton hfront
  | cons name names ih =>
    have hrest := ih (fun x hx => h x (by simp [hx])) (h name (by simp))
    show (front ++ '/' :: (name.toList ++ pathChars names)).splitOn '/' = _
    rw [List.splitOn_append_cons_self, List.splitOn_eq_singleton hfront, hrest]
    rfl

theorem splitSegments_append (cs rest : List Char) :
    splitSegments true (cs ++ '/' :: rest) = splitSegments true cs ++ splitSegments true rest := by
  simp [splitSegments, splitOn_eq, isSlash, List.splitOn_append_cons_self]

/-! ## §5 Walking -/

/-- The segments behind a segment that more segments follow. -/
def enter (done : List String) (seg : List Char) : List String :=
  if isAbove seg then done.dropLast
  else if isHere seg then done
  else done ++ [String.ofList (Percent.encode Percent.inPath seg)]

/-- No escape holds a slash. -/
theorem not_mem_encode {seg : List Char} (h : '/' ∉ seg) :
    '/' ∉ Percent.encode Percent.inPath seg := by
  have hdigit : ∀ d < 16, (Text.hexDigit d).toUpper ≠ '/' := by decide
  have hbyte : ∀ b : UInt8, '/' ∉ Percent.encodeByte b := by
    intro b hmem
    rcases List.mem_cons.mp hmem with hescape | hdigits
    · cases hescape
    · obtain ⟨c, hc, heq⟩ := List.mem_map.mp hdigits
      obtain ⟨d, hd, rfl⟩ := List.mem_map.mp hc
      exact hdigit d (Text.lt_of_mem_fixedDigits (by decide) hd) heq
  intro hmem
  obtain ⟨c, hc, hslash⟩ := List.mem_flatMap.mp hmem
  split at hslash
  · obtain ⟨b, _, hb⟩ := List.mem_flatMap.mp hslash
    exact hbyte b hb
  · rw [List.mem_singleton] at hslash
    exact h (hslash ▸ hc)

/-- The names along a walk hold no slash if the segments hold none. -/
theorem not_mem_of_mem_enter {segs : List (List Char)} (h : ∀ seg ∈ segs, '/' ∉ seg)
    {done : List String} (hdone : ∀ name ∈ done, '/' ∉ name.toList) :
    ∀ name ∈ segs.foldl enter done, '/' ∉ name.toList := by
  induction segs generalizing done with
  | nil => exact hdone
  | cons seg segs ih =>
    apply ih fun x hx => h x (by simp [hx])
    intro name hname
    unfold enter at hname
    split at hname
    · exact hdone name (List.dropLast_subset _ hname)
    · split at hname
      · exact hdone name hname
      · rcases List.mem_append.mp hname with hold | hnew
        · exact hdone name hold
        · rw [List.mem_singleton] at hnew
          rw [hnew, String.toList_ofList]
          exact not_mem_encode (h seg (by simp))

/-- Only the last segment of a path can end it in a slash. -/
theorem walk_append (done : List String) (segs : List (List Char)) {rest : List (List Char)}
    (hrest : rest ≠ []) :
    walk false done (segs ++ rest) = walk false (segs.foldl enter done) rest := by
  induction segs generalizing done with
  | nil => rfl
  | cons seg segs ih =>
    -- another segment follows, so this one is not the last
    have hmore : (segs ++ rest).isEmpty = false := by simp [hrest]
    have habove : above false done = done.dropLast := rfl
    have hstep : walk false done (seg :: (segs ++ rest)) =
        walk false (enter done seg) (segs ++ rest) := by
      simp [walk, enter, hmore, habove]
    rw [List.cons_append, hstep, ih]
    rfl

section Plain

variable {seg : List Char}

theorem lower_of_plain (h : Text.IsPlain seg) : seg.map Char.toLower = seg := by
  have hsame : ∀ c ∈ seg, c.toLower = id c := h.forall (by decide)
  rw [List.map_congr_left hsame, List.map_id]

/-- A plain segment is none of those that begin with a dot or an escape. -/
theorem ne_of_plain (h : Text.IsPlain seg) {c : Char} (hc : c ∉ Text.plainChars)
    (rest : List Char) : seg ≠ c :: rest := by
  intro heq
  exact hc (h c (by simp [heq]))

theorem isHere_of_plain (h : Text.IsPlain seg) : isHere seg = false := by
  have hdot := ne_of_plain (c := '.') h (by decide)
  have hescape := ne_of_plain (c := '%') h (by decide)
  simp [isHere, lower_of_plain h, hdot, hescape]

theorem isAbove_of_plain (h : Text.IsPlain seg) : isAbove seg = false := by
  have hdot := ne_of_plain (c := '.') h (by decide)
  have hescape := ne_of_plain (c := '%') h (by decide)
  simp [isAbove, lower_of_plain h, hdot, hescape]

/-- A plain segment needs no escapes. -/
theorem encode_of_plain (h : Text.IsPlain seg) : Percent.encode Percent.inPath seg = seg := by
  have hkept : ∀ c ∈ seg, (Percent.isControl c || Percent.inPath c) = false :=
    h.forall (by decide)
  clear h
  induction seg with
  | nil => rfl
  | cons c seg ih =>
    have hrest : Percent.encode Percent.inPath seg = seg := ih fun d hd => hkept d (by simp [hd])
    rw [Percent.encode, List.flatMap_cons, hkept c (by simp), ← Percent.encode, hrest]
    rfl

end Plain

/-- Plain segments are kept as they are. -/
theorem walk_plain (done : List String) {segs : List (List Char)}
    (h : ∀ seg ∈ segs, Text.IsPlain seg) :
    walk false done segs = done ++ segs.map String.ofList := by
  induction segs generalizing done with
  | nil => simp [walk]
  | cons seg segs ih =>
    have hseg := h seg (by simp)
    have hstep : walk false done (seg :: segs) = walk false (done ++ [String.ofList seg]) segs := by
      simp [walk, isAbove_of_plain hseg, isHere_of_plain hseg, encode_of_plain hseg]
    rw [hstep, ih _ fun x hx => h x (by simp [hx])]
    simp

/-! ## §6 Paths of Plain Names -/

section Names

variable {name : String} {names : List String}

theorem mem_pathChars {c : Char} (hplain : ∀ n ∈ names, Text.IsPlain n.toList)
    (hc : c ∈ pathChars names) : c = '/' ∨ c ∈ Text.plainChars := by
  obtain ⟨n, hn, hmem⟩ := List.mem_flatMap.mp hc
  rcases List.mem_cons.mp hmem with rfl | hchar
  · exact .inl rfl
  · exact .inr (hplain n hn c hchar)

theorem splitSegments_of_plain (hplain : ∀ n ∈ name :: names, Text.IsPlain n.toList) :
    splitSegments true (name.toList ++ pathChars names) = (name :: names).map String.toList := by
  have hsame : ∀ c ∈ Text.plainChars, (if isSlash true c then '/' else c) = id c :=
    Text.isPlain_plainChars.forall (by decide)
  -- a plain name has neither kind of slash, so nothing is replaced
  have hkept : ∀ c ∈ name.toList ++ pathChars names,
      (if isSlash true c then '/' else c) = id c := by
    intro c hc
    rcases List.mem_append.mp hc with hname | hpath
    · exact hsame c (hplain name (by simp) c hname)
    · rcases mem_pathChars (fun n hn => hplain n (by simp [hn])) hpath with rfl | hchar
      · rfl
      · exact hsame c hchar
  have hslash : ∀ n ∈ name :: names, '/' ∉ n.toList := by
    intro n hn hmem
    exact absurd (hplain n hn _ hmem) (by decide)
  rw [splitSegments, List.map_congr_left hkept, List.map_id, splitOn_eq,
    splitOn_pathChars (fun n hn => hslash n (by simp [hn])) (hslash name (by simp))]
  rfl

/-- Plain names at the end of a path are its last segments, whatever stands in front of them. -/
theorem walk_names (cs : List Char) (hplain : ∀ n ∈ name :: names, Text.IsPlain n.toList) :
    walk false [] (splitSegments true (cs ++ pathChars (name :: names))) =
      (splitSegments true cs).foldl enter [] ++ (name :: names) := by
  have hsegments : ∀ seg ∈ (name :: names).map String.toList, Text.IsPlain seg :=
    List.forall_mem_map.mpr hplain
  show walk false [] (splitSegments true (cs ++ '/' :: (name.toList ++ pathChars names))) = _
  rw [splitSegments_append, splitSegments_of_plain hplain, walk_append _ _ (by simp),
    walk_plain _ hsegments]
  simp

/-- The first slash of a path is no part of a segment. -/
theorem pathOf_slash {c : Char} (hslash : isSlash true c = true) (cs : List Char) :
    pathOf true false (c :: cs) = .segments (walk false [] (splitSegments true cs)) := by
  simp [pathOf, hslash]

/-- A path of plain names is read as these names. -/
theorem pathOf_names (hplain : ∀ n ∈ name :: names, Text.IsPlain n.toList) :
    pathOf true false (pathChars (name :: names)) = .segments (name :: names) := by
  have hsegments : ∀ seg ∈ (name :: names).map String.toList, Text.IsPlain seg :=
    List.forall_mem_map.mpr hplain
  show pathOf true false ('/' :: (name.toList ++ pathChars names)) = _
  rw [pathOf_slash rfl, splitSegments_of_plain hplain, walk_plain _ hsegments]
  simp

end Names

end BuildBroker.Url
