import BuildBroker.Proofs.Outcomes
import BuildBroker.Proofs.Url.Reading

/-!
# The Parts of a URL That Was Read

Not every `Url` is the reading of a text. One that is never names the default port of its scheme, and
where it has an authority its path is a sequence of segments, which has one at least if the scheme is
special.

Main statements:
- `readAuthority_port`: a port that is kept is not the default one.
- `walk_ne_nil`: every path that is walked has a segment.
- `Proper`, `proper_of_parse`: what holds of every URL that was read.
-/

namespace BuildBroker.Url

open Outcome

/-! ## §1 Ports -/

theorem readPort_ne_default {scheme : String} {ds : List Char} {n : Nat}
    (h : readPort scheme ds = .ok (some n)) : defaultPort? scheme ≠ some n := by
  unfold readPort at h
  split at h
  · cases h
  · split at h
    · cases h
    · rename_i m _
      split at h
      · cases h
      · by_cases hdefault : defaultPort? scheme = some m
        · simp [hdefault] at h
        · simp only [if_neg hdefault, Except.ok.injEq, Option.some.injEq] at h
          exact h ▸ hdefault

/-- A port is written in digits. -/
theorem digits_of_readPort {scheme : String} {ds : List Char} {port : Option Nat}
    (h : readPort scheme ds = .ok port) : ∀ c ∈ ds, Text.isDigit c = true := by
  unfold readPort at h
  split at h
  · rename_i hnone
    rw [List.isEmpty_iff.mp hnone]
    exact List.forall_mem_nil _
  · split at h
    · cases h
    · rename_i hread
      split at hread
      · rename_i hdigits
        exact List.all_eq_true.mp hdigits
      · cases hread

/-- What is read of an authority: its host and its port, or no host at all where the scheme allows
that. -/
theorem readAuthority_parts {scheme : String} {more : Bool} {cs : List Char} {a : Authority}
    (h : readAuthority scheme more cs = .ok a) :
    ∃ host port, splitHost false (splitUser cs).2 = (host, port) ∧
      (isSpecial scheme = false ∧ host = [] ∧ a.host = .domain "" ∧ a.port = none ∨
        host ≠ [] ∧ (if isSpecial scheme then Host.ofSpecial host else Host.ofPlain host) =
          .ok a.host ∧ readPort scheme (port.getD []) = .ok a.port) := by
  rcases hparts : splitHost false (splitUser cs).2 with ⟨host, port⟩
  refine ⟨host, port, rfl, ?_⟩
  unfold readAuthority at h
  rcases hsplit : splitUser cs with ⟨user, hostPart⟩
  rw [hsplit] at hparts
  simp only [hsplit, hparts] at h
  split at h
  · cases h
  · split at h
    -- no host: only a scheme of its own may do without, and then without user and port
    · rename_i hempty
      split at h
      · cases h
      · rename_i hplain
        cases h
        simp only [Bool.or_eq_true, not_or, Bool.not_eq_true] at hplain
        exact .inl ⟨hplain.1.1.1, List.isEmpty_iff.mp hempty, rfl, rfl⟩
    -- the host is read before the port, in the way of the scheme
    · rename_i hsome
      refine .inr ⟨fun h => hsome (List.isEmpty_iff.mpr h), ?_⟩
      split at h
      all_goals
        rename_i hscheme
        obtain ⟨read, hread, h⟩ := of_bind_eq_ok h
        obtain ⟨number, hport, h⟩ := of_bind_eq_ok h
        cases h
        simp only [hscheme]
        exact ⟨hread, hport⟩

/-- A port that is kept of an authority is not the default one. -/
theorem readAuthority_port {scheme : String} {more : Bool} {cs : List Char} {a : Authority}
    (h : readAuthority scheme more cs = .ok a) {n : Nat} (hport : a.port = some n) :
    defaultPort? scheme ≠ some n := by
  obtain ⟨_, _, _, ⟨-, -, -, hnone⟩ | ⟨-, -, hread⟩⟩ := readAuthority_parts h
  · rw [hport] at hnone
    cases hnone
  · rw [hport] at hread
    exact readPort_ne_default hread

/-! ## §2 Paths -/

/-- The last segment of a path is never dropped without leaving an empty one. -/
theorem walk_ne_nil (file : Bool) (done : List String) {segs : List (List Char)} (h : segs ≠ []) :
    walk file done segs ≠ [] := by
  induction segs generalizing done with
  | nil => exact absurd rfl h
  | cons seg rest ih =>
    rw [walk]
    cases rest with
    | cons next rest => exact ih _ (List.cons_ne_nil next rest)
    -- the last segment is kept, or leaves an empty one where it leads up or stays
    | nil =>
      rw [walk]
      simp only [List.isEmpty_nil, if_true]
      split
      · simp
      · split
        · simp
        · split
          · simp
          · simp

theorem splitSegments_ne_nil (special : Bool) (cs : List Char) : splitSegments special cs ≠ [] := by
  rw [splitSegments, splitOn_eq]
  exact List.splitOn_ne_nil _ _

/-- A path that is read is a sequence of segments, and not an empty one for a special scheme. -/
theorem pathOf_segments (special file : Bool) (cs : List Char) :
    ∃ names, pathOf special file cs = .segments names ∧ (special = true → names ≠ []) := by
  cases cs with
  | nil =>
    refine ⟨_, rfl, ?_⟩
    rintro rfl
    simp
  | cons c rest =>
    have hwalk := walk_ne_nil file []
      (splitSegments_ne_nil special (if isSlash special c then rest else c :: rest))
    rw [pathOf]
    cases file with
    | false => exact ⟨_, rfl, fun _ => hwalk⟩
    -- a drive letter may be moved to the front, and is a segment as well
    | true =>
      simp only [if_true]
      split
      · exact ⟨_, rfl, fun _ => by simp⟩
      · rename_i hkept
        exact ⟨_, rfl, fun _ => hkept⟩

/-! ## §3 Whole URLs -/

/-- What holds of every URL that was read. -/
structure Proper (u : Url) : Prop where
  port : ∀ n, u.port? = some n → defaultPort? u.scheme ≠ some n
  path : u.authority ≠ none → ∃ names, u.path = .segments names ∧
    (isSpecial u.scheme = true → names ≠ [])

theorem proper_of_segments {scheme : String} {a : Option Authority} {special file : Bool}
    {cs : List Char} {query fragment : Option String}
    (hport : ∀ x ∈ a, ∀ n, x.port = some n → defaultPort? scheme ≠ some n)
    (hspecial : isSpecial scheme = special) :
    Proper ⟨scheme, a, pathOf special file cs, query, fragment⟩ := by
  constructor
  · intro n hn
    obtain ⟨x, hx, hxport⟩ := Option.bind_eq_some_iff.mp hn
    exact hport x hx n hxport
  · intro _
    obtain ⟨names, hpath, hsome⟩ := pathOf_segments special file cs
    exact ⟨names, hpath, fun h => hsome (hspecial ▸ h)⟩

/-- The authority and the path of a URL are proper ones, whatever query and fragment it has. -/
theorem readHierarchy_proper {scheme : String} {more : Bool} {cs : List Char}
    {a : Option Authority} {path : UrlPath} (query fragment : Option String)
    (h : readHierarchy scheme more cs = .ok (a, path)) :
    Proper ⟨scheme, a, path, query, fragment⟩ := by
  -- what a file is read from may name a host, but never a port
  have hnoport : ∀ host, ∀ x ∈ some (Authority.mk "" "" host none), ∀ n, x.port = some n →
      defaultPort? scheme ≠ some n := by
    rintro host x ⟨⟩ n ⟨⟩
  unfold readHierarchy at h
  split at h
  · -- the authority of a file has no port
    rename_i hfile
    have hspecial : isSpecial scheme = true := by rw [hfile]; rfl
    split at h
    · split at h
      · dsimp only at h
        split at h
        · cases h
          exact proper_of_segments (hnoport _) hspecial
        · obtain ⟨host, -, h⟩ := of_bind_eq_ok h
          cases h
          exact proper_of_segments (hnoport _) hspecial
      · cases h
        exact proper_of_segments (hnoport _) hspecial
    · cases h
      exact proper_of_segments (hnoport _) hspecial
  · split at h
    · rename_i hspecial
      obtain ⟨read, hread, h⟩ := of_bind_eq_ok h
      cases h
      refine proper_of_segments ?_ hspecial
      rintro x ⟨⟩ n hn
      exact readAuthority_port hread hn
    · rename_i hspecial
      -- any other scheme has an authority only behind two slashes
      rw [Bool.not_eq_true] at hspecial
      split at h
      · obtain ⟨read, hread, h⟩ := of_bind_eq_ok h
        cases h
        refine proper_of_segments ?_ hspecial
        rintro x ⟨⟩ n hn
        exact readAuthority_port hread hn
      · cases h
        exact proper_of_segments nofun hspecial
      · cases h
        exact ⟨nofun, fun hnone => absurd rfl hnone⟩

/-- Every URL that is read of a text is a proper one. -/
theorem proper_of_parse {raw : String} {u : Url} (h : parse raw = .ok u) : u.Proper := by
  unfold parse ofChars at h
  split at h
  · obtain ⟨⟨a, path⟩, hread, h⟩ := of_bind_eq_ok h
    cases h
    exact readHierarchy_proper _ _ hread
  · cases h

end BuildBroker.Url
