import BuildBroker.Proofs.Http.Callbacks
import BuildBroker.Proofs.Url.Hosts
import BuildBroker.Proofs.Url.Parts

/-!
# Peer Addresses That Are Local

Loading warns of a peer address under which only this host reaches the broker, and cuts the host out
of the address by itself. What executors call back is read by a reader of URLs, which takes more
texts for the same host: a slash behind it, a user in front of it, escapes, and addresses in fewer
than four numbers. This module says where the two agree. There is no false alarm, and of the
addresses with a local host those are recognised which are that host, spelled out, with or without a
port.

Main statements:
- `Host.isLocal`, `Peer.Spells`: what is local, and an address that is a host, spelled out.
- `Config.peerHost_of_plain`, `Config.peerHost_of_brackets`: the host that is cut out.
- `Config.isLocalPeer_of_spells`: what is spelled out and local is recognised.
- `Peer.read_of_localChars`: what a reader of URLs sees in the characters of local hosts.
- `Config.isLocalPeer_iff`: both ways of reading an address.
- `Config.local_warning`: when loading warns.
-/

namespace BuildBroker

open Outcome

/-! ## §1 Hosts, Spelled Out -/

namespace Host

/-- Whether only this host goes by it: `localhost`, in any case, and the addresses that are loopback
or unspecified. -/
def isLocal : Host → Bool
  | .domain name => name.toList.map Char.toLower = "localhost".toList
  | .ipv4 a => a.isLoopback || a.isUnspecified
  | .ipv6 a => a.isLoopback || a.isUnspecified

/-- The text is the host, spelled out: a name in any case, an IPv4 address in four plain numbers, an
IPv6 address in brackets. -/
def IsSpelled (text : List Char) : Host → Prop
  | .domain name => text.map Char.toLower = name.toList.map Char.toLower
  | .ipv4 a => Net.Ipv4.ofChars? text = some a
  | .ipv6 a => ∃ inner, text = '[' :: (inner ++ [']']) ∧ Net.Ipv6.ofChars? inner = some a

end Host

namespace Peer

/-- Nothing, or a colon and nothing but digits. -/
def IsPort (cs : List Char) : Prop :=
  cs = [] ∨ ∃ ds, cs = ':' :: ds ∧ ∀ c ∈ ds, Text.isDigit c = true

/-- The address is the host, spelled out, with or without a port. -/
def Spells (peer : String) (h : Host) : Prop :=
  ∃ text port, peer.toList = text ++ port ∧ IsPort port ∧ h.IsSpelled text

end Peer

/-! ## §2 The Characters of Local Hosts -/

namespace Host

/-- The characters that a local host is spelled with, and its port. -/
def localChars : List Char :=
  "0123456789abcdefghijklmnopqrstuvwxyzABCDEFGHIJKLMNOPQRSTUVWXYZ.:[]".toList

theorem small_of_isAddressChar {c : Char} (h : Net.Ipv6.isAddressChar c = true) :
    c.toNat < 0x80 := by
  have hle : ∀ {d : Char}, c ≤ d → d.toNat < 0x80 → c.toNat < 0x80 := by
    intro d hcd hd
    exact Nat.lt_of_le_of_lt hcd hd
  simp only [Net.Ipv6.isAddressChar, Text.isHexDigit, Bool.or_eq_true, decide_eq_true_eq] at h
  rcases h with (hdigit | rfl) | rfl
  · unfold Text.digitValue? at hdigit
    split at hdigit
    · rename_i hrange
      exact hle hrange.2 (by decide)
    · split at hdigit
      · rename_i hrange
        exact hle hrange.2 (by decide)
      · split at hdigit
        · rename_i hrange
          exact hle hrange.2 (by decide)
        · cases hdigit
  · decide
  · decide

theorem mem_localChars_of_isAddressChar {c : Char} (h : Net.Ipv6.isAddressChar c = true) :
    c ∈ localChars :=
  Text.forall_ascii (P := fun c => Net.Ipv6.isAddressChar c = true → c ∈ localChars)
    (by decide +kernel) (small_of_isAddressChar h) h

theorem mem_localChars_of_digit {c : Char} (h : Text.isDigit c = true) : c ∈ localChars :=
  mem_localChars_of_isAddressChar (Net.Ipv6.isAddressChar_of_digit h)

theorem mem_localChars_of_lower {c : Char} (h : c.toLower ∈ "localhost".toList) :
    c ∈ localChars := by
  have hsmall : c.toNat < 0x80 := by
    by_cases hcapital : c.val ≥ 'A'.val ∧ c.val ≤ 'Z'.val
    · have hle : c.toNat ≤ 'Z'.toNat := hcapital.2
      exact Nat.lt_of_le_of_lt hle (by decide)
    · have hself : c.toLower = c := dif_neg hcapital
      have hascii : ∀ d ∈ "localhost".toList, d.toNat < 0x80 := Text.forall_of_all (by decide)
      exact hascii c (hself ▸ h)
  exact Text.forall_ascii (P := fun c => c.toLower ∈ "localhost".toList → c ∈ localChars)
    (by decide +kernel) hsmall h

end Host

/-! ## §3 The Host That Is Cut Out of an Address -/

namespace Config

section Brackets

variable {cs inner : List Char} {c : Char}

/-- A text without the brackets around it. -/
def bare (cs : List Char) : List Char :=
  (((cs.dropWhile (· = '[')).reverse).dropWhile (· = ']')).reverse

theorem dropWhile_of_not_mem (h : c ∉ cs) : cs.dropWhile (· = c) = cs := by
  apply Peer.dropWhile_of_fails
  intro d hd
  exact decide_eq_false fun heq => h (heq ▸ hd)

theorem bare_of_no_brackets (hopen : '[' ∉ cs) (hclose : ']' ∉ cs) : bare cs = cs := by
  have hback : ']' ∉ cs.reverse := by simpa using hclose
  rw [bare, dropWhile_of_not_mem hopen, dropWhile_of_not_mem hback, List.reverse_reverse]

theorem bare_of_brackets (hopen : '[' ∉ inner) (hclose : ']' ∉ inner) :
    bare ('[' :: (inner ++ [']'])) = inner := by
  have hopen' : '[' ∉ inner ++ [']'] := by simpa using hopen
  have hclose' : ']' ∉ inner.reverse := by simpa using hclose
  have hfront : ('[' :: (inner ++ [']'])).dropWhile (· = '[') = inner ++ [']'] := by
    rw [List.dropWhile_cons_of_pos (by rfl), dropWhile_of_not_mem hopen']
  rw [bare, hfront, List.reverse_append, List.reverse_singleton, List.singleton_append,
    List.dropWhile_cons_of_pos (by rfl), dropWhile_of_not_mem hclose', List.reverse_reverse]

/-- Nothing but brackets is lost. -/
theorem mem_bare (h : c ∈ cs) : c ∈ bare cs ∨ c = '[' ∨ c = ']' := by
  have hmem : ∀ {p : Char → Bool} {xs : List Char}, c ∈ xs → c ∈ xs.dropWhile p ∨ p c = true := by
    intro p xs hc
    rw [← List.takeWhile_append_dropWhile (p := p) (l := xs)] at hc
    rcases List.mem_append.mp hc with htaken | hleft
    · exact .inr (List.mem_takeWhile_imp htaken)
    · exact .inl hleft
  rcases hmem (p := (· = '[')) h with hfront | hopen
  · rcases hmem (p := (· = ']')) (List.mem_reverse.mpr hfront) with hback | hclose
    · exact .inl (List.mem_reverse.mpr hback)
    · exact .inr (.inr (of_decide_eq_true hclose))
  · exact .inr (.inl (of_decide_eq_true hopen))

end Brackets

section Cut

variable {peer : String} {text port ds : List Char}

theorem colon_not_mem_of_digits (h : ∀ c ∈ ds, Text.isDigit c = true) : ':' ∉ ds := by
  intro hmem
  exact absurd (h ':' hmem) (by decide)

/-- What stands behind the last colon. -/
theorem behind_colon (text : List Char) (h : ':' ∉ ds) :
    ((text ++ ':' :: ds).reverse.takeWhile (· ≠ ':')).reverse = ds := by
  have hback : ds.reverse.takeWhile (· ≠ ':') = ds.reverse := by
    apply List.takeWhile_eq_self_iff.mpr
    intro c hc
    exact decide_eq_true fun heq => h (heq ▸ List.mem_reverse.mp hc)
  have hreverse : (text ++ ':' :: ds).reverse = ds.reverse ++ ':' :: text.reverse := by simp
  rw [hreverse, Peer.takeWhile_append_stop (by rfl), hback, List.reverse_reverse]

/-- A port behind the last colon is cut off. -/
theorem peerHost_of_port (hpeer : peer.toList = text ++ ':' :: ds)
    (hds : ∀ c ∈ ds, Text.isDigit c = true) : peerHost peer = bare text := by
  have hport := behind_colon text (colon_not_mem_of_digits hds)
  have hcolon : (text ++ ':' :: ds).contains ':' = true := by simp
  have hall : ds.all Text.isDigit = true := List.all_eq_true.mpr hds
  have hfront : ((text ++ ':' :: ds).take ((text ++ ':' :: ds).length - ds.length)).dropLast =
      text := by
    have hparts : text ++ ':' :: ds = (text ++ [':']) ++ ds := by simp
    rw [hparts, List.length_append, Nat.add_sub_cancel, List.take_left, List.dropLast_concat]
  simp only [peerHost, hpeer, hport, hcolon, hall, Bool.and_self, if_true, hfront]
  rfl

/-- Without a colon, or with a bracket at the end, there is no port to cut off. -/
theorem peerHost_of_no_port (h : ':' ∉ peer.toList ∨ ∃ front, peer.toList = front ++ [']']) :
    peerHost peer = bare peer.toList := by
  have hkept : (peer.toList.contains ':' &&
      (peer.toList.reverse.takeWhile (· ≠ ':')).reverse.all Text.isDigit) = false := by
    rcases h with hcolon | ⟨front, hlast⟩
    · simp [hcolon]
    · -- what stands behind the last colon ends in the bracket
      have hbracket : ((front ++ [']']).reverse.takeWhile (· ≠ ':')).reverse.all Text.isDigit =
          false := by
        simp [Text.isDigit]
      rw [hlast, hbracket, Bool.and_false]
  simp only [peerHost, hkept]
  rfl

/-- Either a port is cut off, or there is none. -/
theorem peerHost_cases (peer : String) :
    (∃ text ds, peer.toList = text ++ ':' :: ds ∧ ∀ c ∈ ds, Text.isDigit c = true) ∨
      peerHost peer = bare peer.toList := by
  cases hcut : peer.toList.contains ':' &&
      (peer.toList.reverse.takeWhile (· ≠ ':')).reverse.all Text.isDigit with
  | true =>
    obtain ⟨hcolon, hdigits⟩ := Bool.and_eq_true_iff.mp hcut
    -- the last colon is the first one from behind
    have hback : ':' ∈ peer.toList.reverse := by simpa using hcolon
    obtain ⟨ds, text, hparts, hnone⟩ := List.eq_append_cons_of_mem hback
    have hpeer : peer.toList = text.reverse ++ ':' :: ds.reverse := by
      rw [← List.reverse_reverse peer.toList, hparts]
      simp
    rw [hpeer, behind_colon text.reverse (by simpa using hnone)] at hdigits
    exact .inl ⟨_, _, hpeer, List.all_eq_true.mp hdigits⟩
  | false =>
    refine .inr ?_
    simp only [peerHost, hcut]
    rfl

/-- What is cut out of an address that is a name or an IPv4 address, with or without a port. -/
theorem peerHost_of_plain (hpeer : peer.toList = text ++ port) (hport : Peer.IsPort port)
    (hcolon : ':' ∉ text) (hopen : '[' ∉ text) (hclose : ']' ∉ text) : peerHost peer = text := by
  have hbare := bare_of_no_brackets hopen hclose
  rcases hport with rfl | ⟨ds, rfl, hds⟩
  · rw [List.append_nil] at hpeer
    rw [peerHost_of_no_port (.inl (hpeer ▸ hcolon)), hpeer, hbare]
  · rw [peerHost_of_port hpeer hds, hbare]

/-- What is cut out of an address in brackets, with or without a port. -/
theorem peerHost_of_brackets {inner : List Char}
    (hpeer : peer.toList = '[' :: (inner ++ [']']) ++ port) (hport : Peer.IsPort port)
    (hopen : '[' ∉ inner) (hclose : ']' ∉ inner) : peerHost peer = inner := by
  have hbare := bare_of_brackets hopen hclose
  rcases hport with rfl | ⟨ds, rfl, hds⟩
  · rw [List.append_nil] at hpeer
    rw [peerHost_of_no_port (.inr ⟨'[' :: inner, hpeer⟩), hpeer, hbare]
  · rw [peerHost_of_port hpeer hds, hbare]

end Cut

/-! ## §4 Local Hosts Are Recognised -/

/-- Whether the text that is cut out of an address is a local host. -/
def isLocalText (host : List Char) : Bool :=
  host.map Char.toLower = "localhost".toList ||
    match Net.Ip.ofChars? host with
    | some ip => ip.isLoopback || ip.isUnspecified
    | none => false

section Recognised

variable {peer : String} {text : List Char}

theorem isLocalPeer_eq (peer : String) : isLocalPeer peer = isLocalText (peerHost peer) := by
  cases hip : Net.Ip.ofChars? (peerHost peer) <;> simp only [isLocalPeer, isLocalText, hip]

/-- The characters of an IPv4 address are their own small letters, and none of them is a colon or a
bracket. -/
theorem plain_of_ipv4 {a : Net.Ipv4} (h : Net.Ipv4.ofChars? text = some a) :
    text.map Char.toLower = text ∧ ':' ∉ text ∧ '[' ∉ text ∧ ']' ∉ text := by
  have hchar : ∀ c ∈ text, c.toLower = c ∧ c ≠ ':' ∧ c ≠ '[' ∧ c ≠ ']' := by
    have hascii : ∀ c ∈ Host.localChars, Text.isDigit c = true ∨ c = '.' →
        c.toLower = c ∧ c ≠ ':' ∧ c ≠ '[' ∧ c ≠ ']' := Text.forall_of_all (by decide)
    intro c hc
    have hform := Net.Ipv4.chars_of_ofChars? h c hc
    refine hascii c ?_ hform
    rcases hform with hdigit | rfl
    · exact Host.mem_localChars_of_digit hdigit
    · decide
  refine ⟨?_, fun hmem => (hchar _ hmem).2.1 rfl, fun hmem => (hchar _ hmem).2.2.1 rfl,
    fun hmem => (hchar _ hmem).2.2.2 rfl⟩
  have hself : text.map Char.toLower = text.map id :=
    List.map_congr_left fun c hc => (hchar c hc).1
  rw [hself, List.map_id]

theorem dot_mem_of_ipv4 {a : Net.Ipv4} (h : Net.Ipv4.ofChars? text = some a) : '.' ∈ text := by
  obtain ⟨ds, -, -, -, -, -, -, -, -, -, -, -, rfl, -⟩ :=
    Net.Ipv4.read?_parts (Net.Ipv4.read?_of_ofChars? h)
  simp

theorem no_brackets_of_ipv6 {a : Net.Ipv6} (h : Net.Ipv6.ofChars? text = some a) :
    '[' ∉ text ∧ ']' ∉ text := by
  have hchars := (Net.Ipv6.parts_of_ofChars? h).1
  exact ⟨fun hmem => absurd (hchars _ hmem) (by decide),
    fun hmem => absurd (hchars _ hmem) (by decide)⟩

theorem colon_mem_of_ipv6 {a : Net.Ipv6} (h : Net.Ipv6.ofChars? text = some a) : ':' ∈ text := by
  have hcount := (Net.Ipv6.parts_of_ofChars? h).2
  exact List.count_pos_iff.mp (by omega)

/-- An address is not `localhost`. -/
theorem not_localhost {c : Char} (hmem : c ∈ text) (hc : c.toLower ∉ "localhost".toList) :
    decide (text.map Char.toLower = "localhost".toList) = false := by
  apply decide_eq_false
  intro heq
  exact hc (heq ▸ List.mem_map_of_mem hmem)

theorem isLocalText_of_ipv4 {a : Net.Ipv4} (h : Net.Ipv4.ofChars? text = some a) :
    isLocalText text = (Host.ipv4 a).isLocal := by
  have hname := not_localhost (dot_mem_of_ipv4 h) (by decide)
  have hip : Net.Ip.ofChars? text = some (.v4 a) := by rw [Net.Ip.ofChars?, h]
  simp only [isLocalText, hname, hip, Bool.false_or]
  rfl

theorem isLocalText_of_ipv6 {a : Net.Ipv6} (h : Net.Ipv6.ofChars? text = some a) :
    isLocalText text = (Host.ipv6 a).isLocal := by
  have hname := not_localhost (colon_mem_of_ipv6 h) (by decide)
  have hplain : Net.Ipv4.ofChars? text = none := by
    rw [Option.eq_none_iff_forall_ne_some]
    intro a' ha'
    exact (plain_of_ipv4 ha').2.1 (colon_mem_of_ipv6 h)
  have hip : Net.Ip.ofChars? text = some (.v6 a) := by rw [Net.Ip.ofChars?, hplain, h]; rfl
  simp only [isLocalText, hname, hip, Bool.false_or]
  rfl

/-- The local hosts that are cut out of addresses. -/
theorem isLocalText_cases (h : isLocalText text = true) :
    text.map Char.toLower = "localhost".toList ∨
      (∃ a, Net.Ipv4.ofChars? text = some a ∧ (Host.ipv4 a).isLocal = true) ∨
      ∃ a, Net.Ipv6.ofChars? text = some a ∧ (Host.ipv6 a).isLocal = true := by
  rw [isLocalText, Bool.or_eq_true] at h
  rcases h with hname | hip
  · exact .inl (of_decide_eq_true hname)
  · split at hip
    · rename_i ip hread
      rcases Net.Ip.ofChars?_cases hread with ⟨a, ha, rfl⟩ | ⟨a, ha, rfl⟩
      · exact .inr (.inl ⟨a, ha, hip⟩)
      · exact .inr (.inr ⟨a, ha, hip⟩)
    · cases hip

/-- What is spelled out and local is recognised. -/
theorem isLocalPeer_of_spells {h : Host} (hspells : Peer.Spells peer h) (hlocal : h.isLocal = true) :
    isLocalPeer peer = true := by
  obtain ⟨text, port, hpeer, hport, hspelled⟩ := hspells
  rw [isLocalPeer_eq]
  cases h with
  | domain name =>
    have hname : text.map Char.toLower = "localhost".toList :=
      hspelled.trans (of_decide_eq_true hlocal)
    -- the letters of `localhost` leave no room for colons and brackets
    have hnone : ∀ c : Char, c.toLower ∉ "localhost".toList → c ∉ text :=
      fun c hc hmem => hc (hname ▸ List.mem_map_of_mem hmem)
    rw [peerHost_of_plain hpeer hport (hnone _ (by decide)) (hnone _ (by decide))
      (hnone _ (by decide))]
    simp [isLocalText, hname]
  | ipv4 a =>
    obtain ⟨-, hcolon, hopen, hclose⟩ := plain_of_ipv4 hspelled
    rw [peerHost_of_plain hpeer hport hcolon hopen hclose, isLocalText_of_ipv4 hspelled, hlocal]
  | ipv6 a =>
    obtain ⟨inner, rfl, ha⟩ := hspelled
    obtain ⟨hopen, hclose⟩ := no_brackets_of_ipv6 ha
    rw [peerHost_of_brackets hpeer hport hopen hclose, isLocalText_of_ipv6 ha, hlocal]

/-- An address that is found to be local holds no characters but those of local hosts. -/
theorem localChars_of_isLocalPeer (h : isLocalPeer peer = true) :
    ∀ c ∈ peer.toList, c ∈ Host.localChars := by
  have hhost : ∀ c ∈ peerHost peer, c ∈ Host.localChars := by
    rw [isLocalPeer_eq] at h
    intro c hc
    rcases isLocalText_cases h with hname | ⟨a, ha, -⟩ | ⟨a, ha, -⟩
    · apply Host.mem_localChars_of_lower
      rw [← hname]
      exact List.mem_map_of_mem hc
    · rcases Net.Ipv4.chars_of_ofChars? ha c hc with hdigit | rfl
      · exact Host.mem_localChars_of_digit hdigit
      · decide
    · exact Host.mem_localChars_of_isAddressChar ((Net.Ipv6.parts_of_ofChars? ha).1 c hc)
  -- nothing but brackets and a port was cut off
  have hbare : ∀ cs : List Char, (∀ c ∈ bare cs, c ∈ Host.localChars) →
      ∀ c ∈ cs, c ∈ Host.localChars := by
    intro cs hcs c hc
    rcases mem_bare hc with hc | rfl | rfl
    · exact hcs c hc
    · decide
    · decide
  rcases peerHost_cases peer with ⟨text, ds, hpeer, hds⟩ | hpeer
  · rw [peerHost_of_port hpeer hds] at hhost
    intro c hc
    rw [hpeer] at hc
    rcases List.mem_append.mp hc with hc | hc
    · exact hbare text hhost c hc
    · rcases List.mem_cons.mp hc with rfl | hc
      · decide
      · exact Host.mem_localChars_of_digit (hds c hc)
  · rw [hpeer] at hhost
    exact hbare _ hhost

end Recognised

end Config

/-! ## §5 What a Reader of URLs Sees -/

namespace Peer

open Url

variable {peer : String} {a : Authority}

/-- The characters of local hosts are dropped nowhere and mark nothing. -/
theorem quiet_of_mem_localChars : ∀ c ∈ Host.localChars,
    Text.isBlank c = false ∧ isSkipped c = false ∧ isMark c = false ∧ isSlash true c = false ∧
      c.toNat < 0x80 ∧ c ≠ '%' ∧ c ≠ '@' :=
  Text.forall_of_all (by decide)

/-- An address of such characters is an authority as it stands. -/
theorem authority_of_localChars (h : ∀ c ∈ peer.toList, c ∈ Host.localChars)
    (hsome : peer.toList ≠ []) : authority peer = peer.toList := by
  have hquiet := fun c hc => quiet_of_mem_localChars c (h c hc)
  have hslash : ∀ c ∈ peer.toList, isSlash true c = false := fun c hc => (hquiet c hc).2.2.2.1
  -- every step from the address to the authority finds nothing to drop and nowhere to cut
  have htext : CallbackUrls.peerText peer = peer.toList := by
    have hback : ∀ {p : Char → Bool}, (∀ c ∈ peer.toList, p c = false) →
        peer.toList.reverse.dropWhile p = peer.toList.reverse :=
      fun hp => dropWhile_of_fails fun c hc => hp c (List.mem_reverse.mp hc)
    have hblank : ∀ c ∈ peer.toList, Text.isBlank c = false := fun c hc => (hquiet c hc).1
    have hend : ∀ c ∈ peer.toList, decide (c = '/') = false := by
      intro c hc
      exact decide_eq_false fun heq => absurd (hslash c hc) (by simp [heq, isSlash])
    have htrim : Text.trimChars peer.toList = peer.toList := by
      rw [Text.trimChars, Text.dropBlankEnd, Text.dropBlank, Text.dropBlank,
        dropWhile_of_fails hblank, hback hblank, List.reverse_reverse]
    rw [CallbackUrls.peerText, htrim, hback hend, List.reverse_reverse]
  have hseen : seen peer = peer.toList := by
    rw [seen, htext]
    apply List.filter_eq_self.mpr
    intro c hc
    simp [(hquiet c hc).2.1]
  have hunmarked : isMarked peer = false := by
    rw [isMarked, hseen]
    apply List.any_eq_false.mpr
    intro c hc
    simp [(hquiet c hc).2.2.1]
  have hplace : place peer = peer.toList := by
    rw [place_of_unmarked hunmarked, hseen, dropWhile_of_fails hslash]
  rw [authority, if_neg fun h => hsome (hplace ▸ h.1), hplace]
  apply List.takeWhile_eq_self_iff.mpr
  intro c hc
  simp [hslash c hc]

/-- What is read of the characters of local hosts: an IPv6 address in brackets, or an IPv4 address
or a name without any; with or without a port. -/
theorem read_of_localChars {cs : List Char} (h : ∀ c ∈ cs, c ∈ Host.localChars)
    (hread : readAuthority "http" false cs = .ok a) :
    ∃ text port, cs = text ++ port ∧ IsPort port ∧
      ((∃ inner v6, text = '[' :: (inner ++ [']']) ∧ Net.Ipv6.ofChars? inner = some v6 ∧
          a.host = .ipv6 v6) ∨
        (':' ∉ text ∧ '[' ∉ text ∧ ']' ∉ text) ∧
          (Host.endsInNumber (text.map Char.toLower) = true ∧
              (∃ v4, Host.ipv4? (text.map Char.toLower) = some v4 ∧ a.host = .ipv4 v4) ∨
            Host.endsInNumber (text.map Char.toLower) = false ∧
              a.host = .domain (String.ofList (text.map Char.toLower)))) := by
  have hquiet := fun c hc => quiet_of_mem_localChars c (h c hc)
  have huser : splitUser cs = (none, cs) := by
    have hnone : '@' ∉ cs := fun hmem => (hquiet '@' hmem).2.2.2.2.2.2 rfl
    simp [splitUser, hnone]
  obtain ⟨text, port, hsplit, ⟨hplain, -⟩ | ⟨hsome, hhost, hport⟩⟩ := readAuthority_parts hread
  · cases hplain
  rw [huser] at hsplit
  have hjoin : cs = text ++ (port.map (':' :: ·)).getD [] := splitHost_join hsplit
  refine ⟨text, _, hjoin, ?_, ?_⟩
  · cases port with
    | none => exact .inl rfl
    | some ds => exact .inr ⟨ds, rfl, digits_of_readPort hport⟩
  · have hspecial : Host.ofSpecial text = .ok a.host := hhost
    have htext : ∀ c ∈ text, c ∈ cs := fun c hc => hjoin ▸ List.mem_append_left _ hc
    by_cases hopen : text.head? = some '['
    · obtain ⟨rest, rfl⟩ := List.head?_eq_some_iff.mp hopen
      obtain ⟨inner, v6, rfl, hv6, hhost⟩ := Host.ofSpecial_of_bracket hspecial
      exact .inl ⟨inner, v6, rfl, hv6, hhost⟩
    · have hascii : ∀ c ∈ text, c.toNat < 0x80 := fun c hc => (hquiet c (htext c hc)).2.2.2.2.1
      have hescape : '%' ∉ text := fun hmem => (hquiet _ (htext _ hmem)).2.2.2.2.2.1 rfl
      obtain ⟨hlegal, hform⟩ := Host.ofSpecial_of_ascii hascii hescape hopen hspecial
      -- a host outside of brackets holds neither colons nor brackets
      have hnone : ∀ c : Char, Host.isForbiddenInDomain c.toLower = true → c ∉ text := by
        intro c hc hmem
        rw [hlegal c hmem] at hc
        cases hc
      exact .inr ⟨⟨hnone _ (by decide), hnone _ (by decide), hnone _ (by decide)⟩, hform⟩

end Peer

namespace Config

variable {peer : String} {a : Authority}

/-- An address that is read as an authority is found to be local exactly if the host that is read is
local and the address is that host, spelled out. -/
theorem isLocalPeer_iff (hread : Url.readAuthority "http" false (Peer.authority peer) = .ok a) :
    isLocalPeer peer = true ↔ a.host.isLocal = true ∧ Peer.Spells peer a.host := by
  constructor
  · intro h
    have hchars := localChars_of_isLocalPeer h
    have hsome : peer.toList ≠ [] := by
      intro hnone
      rw [String.toList_eq_nil_iff.mp hnone] at h
      exact absurd h (by decide)
    -- a reader of URLs sees the whole address, and takes it apart at the same places
    rw [Peer.authority_of_localChars hchars hsome] at hread
    rw [isLocalPeer_eq] at h
    obtain ⟨text, port, hpeer, hport, ⟨inner, v6, rfl, hv6, hhost⟩ |
      ⟨⟨hcolon, hopen, hclose⟩, hform⟩⟩ := Peer.read_of_localChars hchars hread
    · obtain ⟨hopen, hclose⟩ := no_brackets_of_ipv6 hv6
      rw [peerHost_of_brackets hpeer hport hopen hclose, isLocalText_of_ipv6 hv6] at h
      rw [hhost]
      exact ⟨h, _, port, hpeer, hport, inner, rfl, hv6⟩
    · rw [peerHost_of_plain hpeer hport hcolon hopen hclose] at h
      rcases isLocalText_cases h with hname | ⟨v4, hv4, hlocal⟩ | ⟨v6, hv6, -⟩
      · -- `localhost` is no number, so it is read as a name
        rw [hname] at hform
        rcases hform with ⟨hnumber, -⟩ | ⟨-, hhost⟩
        · exact absurd hnumber (by decide)
        · rw [hhost]
          refine ⟨by decide, text, port, hpeer, hport, ?_⟩
          rw [Host.IsSpelled, hname]
          decide
      · -- four plain numbers are the same address to both
        obtain ⟨hnumber, hread4⟩ := Host.ipv4?_of_ofChars? hv4
        rw [(plain_of_ipv4 hv4).1, hnumber, hread4] at hform
        rcases hform with ⟨-, v4', heq, hhost⟩ | ⟨hname, -⟩
        · cases heq
          rw [hhost]
          exact ⟨hlocal, text, port, hpeer, hport, hv4⟩
        · cases hname
      · exact absurd (colon_mem_of_ipv6 hv6) hcolon
  · rintro ⟨hlocal, hspells⟩
    exact isLocalPeer_of_spells hspells hlocal

/-! ## §6 Warnings -/

section Warnings

variable {flags : Overrides} {layer : EnvironmentLayer} {file : FileLayer} {s : Settings}
  {ws : List Warning}

/-- The warnings beside settings that were composed. -/
theorem warnings_of_compose (h : compose flags layer file = .ok (s, ws)) :
    ws = layer.unparsed.map Warning.unparsed
      ++ (if isLocalPeer s.peer then [Warning.localPeer s.peer] else [])
      ++ (if s.pickupTimeout < s.fetchTimeout then [Warning.shortPickup] else []) := by
  unfold compose at h
  -- which texts were chosen plays no part
  generalize (chooseText flags.listen layer.listen file.listen).getD defaultListen = listen at h
  generalize (chooseText flags.executorUrl layer.executorUrl file.executorUrl).getD
    defaultExecutorUrl = url at h
  rcases haddress : Net.SocketAddress.ofText? listen with _ | address
  · simp only [haddress] at h
    cases h
  rcases hpeer : chooseText flags.peer layer.peer file.peer with _ | peer
  · simp only [haddress, hpeer] at h
    cases h
  rcases hparse : Url.parse url with cause | u
  · simp only [haddress, hpeer, hparse] at h
    cases h
  simp only [haddress, hpeer, hparse, pure_bind] at h
  split at h
  · cases h
  · obtain ⟨executor, -, h⟩ := of_bind_eq_ok h
    obtain ⟨fetch, -, h⟩ := of_bind_eq_ok h
    obtain ⟨pickup, -, h⟩ := of_bind_eq_ok h
    cases h
    rfl

/-- The hints of warnings differ, so no other one is taken for that of a local address. -/
theorem localPeer_mem_iff (peer : String) (unparsed : List Timeout) (short : Prop) [Decidable short] :
    Warning.localPeer peer ∈ unparsed.map Warning.unparsed
        ++ (if isLocalPeer peer then [Warning.localPeer peer] else [])
        ++ (if short then [Warning.shortPickup] else []) ↔
      isLocalPeer peer = true := by
  have hunparsed : ∀ t, Warning.unparsed t ≠ Warning.localPeer peer := by
    intro t heq
    have hhint : "falling back to the file or default value" =
        "remote executors will not be able to call back" := congrArg Warning.hint heq
    exact absurd hhint (by decide)
  have hshort : Warning.localPeer peer ≠ Warning.shortPickup := by
    intro heq
    have hhint : "remote executors will not be able to call back" =
        "uploads may be withdrawn before the executor arrives" := congrArg Warning.hint heq
    exact absurd hhint (by decide)
  by_cases hlocal : isLocalPeer peer = true <;> by_cases hs : short <;>
    simp [hunparsed, hshort, hlocal, hs]

/-- Loading warns of the address in effect exactly if it is found to be local. -/
theorem warned_iff {tree : FileTree} {options : LoadOptions} {read : Bool} {l : Loaded}
    (h : loadOver tree options flags layer read = .ok l) :
    Warning.localPeer l.settings.peer ∈ l.warnings ↔ isLocalPeer l.settings.peer = true := by
  obtain ⟨file, hcompose⟩ := compose_of_loadOver h
  rw [warnings_of_compose hcompose]
  exact localPeer_mem_iff _ _ _

end Warnings

end Config

/-- The host of callbacks is the one that is read of the address. -/
theorem Peer.host_of_reads {peer : String} {names : List String} {u : Url} {a : Authority}
    (h : Reads peer names u) (ha : Url.readAuthority "http" false (authority peer) = .ok a) :
    u.host? = some a.host := by
  obtain ⟨a', ha', hu⟩ := h.authority
  obtain rfl : a' = a := Except.ok.inj (ha'.symm.trans ha)
  -- where callbacks go there is no empty host
  have hname : a'.host ≠ .domain "" := by
    obtain ⟨_, _, _, ⟨hplain, -⟩ | ⟨-, hread, -⟩⟩ := Url.readAuthority_parts ha
    · cases hplain
    · exact Host.ne_empty_of_ofSpecial hread
  simp only [Url.host?, hu, if_neg hname]

namespace Config

variable {tree : FileTree} {options : LoadOptions} {flags : Overrides} {l : Loaded} {id : BuildId}
  {urls : CallbackUrls}

/-- **The warning of a local address.** Of every address that is loaded, in an environment or over a
layer that is given, and that gives callbacks, loading warns exactly if the host of the callbacks is
local and the address is that host, spelled out, with or without a port. -/
theorem local_warning
    (h : (∃ env, load tree options flags env = .ok l) ∨
      ∃ layer read, loadOver tree options flags layer read = .ok l)
    (hurls : CallbackUrls.forBuild l.settings.peer id = .ok urls) :
    ∃ host, (urls.All fun u _ => u.host? = some host) ∧
      (Warning.localPeer l.settings.peer ∈ l.warnings ↔
        host.isLocal = true ∧ Peer.Spells l.settings.peer host) := by
  -- loading in an environment is loading over the layer that is read of it
  obtain ⟨layer, read, hload⟩ : ∃ layer read, loadOver tree options flags layer read = .ok l := by
    rcases h with ⟨env, h⟩ | h
    · obtain ⟨⟨vars, read⟩, -, h⟩ := of_bind_eq_ok h
      exact ⟨_, read, h⟩
    · exact h
  obtain ⟨-, a, ha⟩ := Peer.isReadable_iff.mp (Peer.forBuild_isOk_iff.mp ⟨urls, hurls⟩)
  obtain ⟨hlogs, hbits, hresult⟩ := Peer.reads_of_forBuild hurls
  refine ⟨a.host, ⟨Peer.host_of_reads hlogs ha, Peer.host_of_reads hbits ha,
    Peer.host_of_reads hresult ha⟩, ?_⟩
  rw [warned_iff hload, isLocalPeer_iff ha]

/-- Behind a slash `localhost` is still the host of the callbacks, but loading warns of nothing. -/
theorem local_warning_endSlash :
    ∃ l urls, load ⟨[], []⟩ ⟨none, none⟩ ⟨none, some "localhost/", none⟩ .empty = .ok l ∧
      CallbackUrls.forBuild l.settings.peer ⟨7⟩ = .ok urls ∧
      (urls.All fun u _ => u.host? = some (.domain "localhost")) ∧
      (Host.domain "localhost").isLocal = true ∧ l.warnings = [] ∧
      ¬ Peer.Spells "localhost/" (.domain "localhost") := by
  have hload : load ⟨[], []⟩ ⟨none, none⟩ ⟨none, some "localhost/", none⟩ .empty =
      .ok ⟨settingsOf "localhost/", [], none, false⟩ := by rfl
  obtain ⟨urls, hurls, hhost⟩ : ∃ urls, CallbackUrls.forBuild "localhost/" ⟨7⟩ = .ok urls ∧
      urls.All fun u _ => u.host? = some (.domain "localhost") := ⟨_, rfl, by rfl, by rfl, by rfl⟩
  have hlocal : (Host.domain "localhost").isLocal = true := by decide
  refine ⟨_, urls, hload, hurls, hhost, hlocal, rfl, ?_⟩
  intro hspells
  obtain ⟨host, hall, hwarned⟩ := local_warning (.inl ⟨_, hload⟩) hurls
  obtain rfl : .domain "localhost" = host := Option.some.inj (hhost.1.symm.trans hall.1)
  exact absurd (hwarned.mpr ⟨hlocal, hspells⟩) List.not_mem_nil

end Config

end BuildBroker
