import BuildBroker.Proofs.Net.Addresses
import BuildBroker.Proofs.Text.Octets
import BuildBroker.Proofs.Url.Reading

/-!
# Hosts of ASCII

A host that is written in ASCII, without escapes, is read as its own text in lower case, and as an
address if its last label is a number. An address of four plain numbers is the same to a reader of
hosts and to a reader of addresses.

Main statements:
- `Text.forall_ascii`: what is seen of the 128 characters of ASCII.
- `Host.asciiDomain?_of_ascii`: the normal form of a name of ASCII.
- `Host.ofSpecial_of_ascii`: what is read of a host of ASCII.
- `Host.ipv4?_of_ofChars?`: both ways of reading an IPv4 address.
- `Url.splitHost_join`: where a host ends.
-/

namespace BuildBroker

/-! ## §1 Characters of ASCII -/

/-- What every character of ASCII is seen to have, a character with a small code has. -/
theorem Text.forall_ascii {P : Char → Prop} [DecidablePred P]
    (h : ∀ n < 0x80, P (Char.ofNat n)) {c : Char} (hc : c.toNat < 0x80) : P c := by
  have hP := h c.toNat hc
  rwa [Char.ofNat_toNat] at hP

/-- Octets without a percent sign hold no escapes. -/
theorem Percent.decode_of_no_escape {b : Bytes} (h : 0x25 ∉ b) : decode b = b := by
  fun_induction decode b with
  | case1 | case2 => simp at h
  | case3 a rest _ ih => rw [ih fun hmem => h (by simp [hmem])]
  | case4 => rfl

/-- A text of ASCII without percent signs is what its octets stand for. -/
theorem Percent.toText?_decode {cs : List Char} (hascii : ∀ c ∈ cs, c.toNat < 0x80)
    (hescape : '%' ∉ cs) :
    (decode (Bytes.ofChars cs)).toText? = some (String.ofList cs) := by
  have hnone : 0x25 ∉ Bytes.ofChars cs := by
    rw [Bytes.ofChars_of_ascii hascii]
    intro hmem
    obtain ⟨c, hc, hoctet⟩ := List.mem_map.mp hmem
    have hpercent : UInt8.ofNat c.toNat = 0x25 → c = '%' :=
      Text.forall_ascii (P := fun c => UInt8.ofNat c.toNat = 0x25 → c = '%') (by decide +kernel)
        (hascii c hc)
    exact hescape (hpercent hoctet ▸ hc)
  have hback := Bytes.toText?_ofText (String.ofList cs)
  rw [Bytes.ofText, String.toList_ofList] at hback
  rw [decode_of_no_escape hnone, hback]

namespace Host

/-! ## §2 Names -/

/-- The normal form of a character of ASCII is its small letter. -/
theorem foldChar_of_ascii {c : Char} (hc : c.toNat < 0x80) : foldChar c = [c.toLower] :=
  Text.forall_ascii (P := fun c => foldChar c = [c.toLower]) (by decide +kernel) hc

theorem flatMap_foldChar {cs : List Char} (h : ∀ c ∈ cs, c.toNat < 0x80) :
    cs.flatMap foldChar = cs.map Char.toLower := by
  induction cs with
  | nil => rfl
  | cons c cs ih =>
    rw [List.flatMap_cons, foldChar_of_ascii (h c List.mem_cons_self),
      ih fun x hx => h x (List.mem_cons_of_mem _ hx)]
    rfl

/-- A label of ASCII is its own ASCII form, if it has one. -/
theorem asciiLabel?_of_ascii {label l : List Char} (hascii : ∀ c ∈ label, c.toNat < 0x80)
    (h : asciiLabel? label = some l) : l = label := by
  have hall : label.all (·.toNat < Punycode.firstExtended) = true := by
    rw [List.all_eq_true]
    intro c hc
    exact decide_eq_true (hascii c hc)
  rw [asciiLabel?, if_pos hall] at h
  split at h
  · split at h
    · split at h
      · exact (Option.some.inj h).symm
      · cases h
    · cases h
  · exact (Option.some.inj h).symm

theorem joinWith_eq (mark : Char) (parts : List (List Char)) :
    joinWith mark parts = [mark].intercalate parts := by
  induction parts with
  | nil => rfl
  | cons p ps ih =>
    cases ps with
    | nil => simp [joinWith]
    | cons q qs =>
      rw [joinWith, ih]
      · simp [List.intercalate]
      · simp

/-- The parts between marks make up the text again. -/
theorem joinWith_splitOn (mark : Char) (cs : List Char) :
    joinWith mark (splitOn mark cs) = cs := by
  rw [joinWith_eq, Url.splitOn_eq, List.intercalate_splitOn]

/-- The characters of the parts are characters of the text that they make up. -/
theorem mem_joinWith {mark : Char} {parts : List (List Char)} {part : List Char}
    (hpart : part ∈ parts) {c : Char} (hc : c ∈ part) : c ∈ joinWith mark parts := by
  induction parts with
  | nil => cases hpart
  | cons p ps ih =>
    cases ps with
    | nil =>
      rw [List.mem_singleton.mp hpart] at hc
      exact hc
    | cons q qs =>
      rw [joinWith]
      · rcases List.mem_cons.mp hpart with rfl | hrest
        · exact List.mem_append_left _ hc
        · exact List.mem_append_right _ (List.mem_cons_of_mem _ (ih hrest))
      · simp

/-- If a function gives only what it was given, then so does a sequence of its calls. -/
theorem mapM_self {α : Type} {f : α → Option α} {xs ys : List α}
    (hself : ∀ x ∈ xs, ∀ y, f x = some y → y = x) (h : xs.mapM f = some ys) : ys = xs := by
  -- element by element: the first call gives its argument, and so do the others
  induction xs generalizing ys with
  | nil =>
    cases h
    rfl
  | cons x xs ih =>
    rw [List.mapM_cons] at h
    obtain ⟨y, hy, h⟩ := Option.bind_eq_some_iff.mp h
    obtain ⟨rest, hrest, h⟩ := Option.bind_eq_some_iff.mp h
    cases h
    rw [hself x List.mem_cons_self y hy,
      ih (fun z hz => hself z (List.mem_cons_of_mem _ hz)) hrest]

/-- The normal form of a name of ASCII is the name in lower case. -/
theorem asciiDomain?_of_ascii {cs name : List Char} (hascii : ∀ c ∈ cs, c.toNat < 0x80)
    (h : asciiDomain? cs = some name) :
    name = cs.map Char.toLower ∧ ∀ c ∈ name, isForbiddenInDomain c = false := by
  have hlower : ∀ c ∈ cs.map Char.toLower, c.toNat < 0x80 := by
    intro c hc
    obtain ⟨d, hd, rfl⟩ := List.mem_map.mp hc
    exact Text.forall_ascii (P := fun c => c.toLower.toNat < 0x80) (by decide +kernel) (hascii d hd)
  rw [asciiDomain?, flatMap_foldChar hascii] at h
  obtain ⟨labels, hlabels, hname⟩ := Option.bind_eq_some_iff.mp h
  -- each label is its own ASCII form, so they make up the name again
  have hsame : labels = splitOn '.' (cs.map Char.toLower) := by
    apply mapM_self ?_ hlabels
    intro label hlabel l hl
    refine asciiLabel?_of_ascii (fun c hc => hlower c ?_) hl
    rw [← joinWith_splitOn '.' (cs.map Char.toLower)]
    exact mem_joinWith hlabel hc
  rw [hsame, joinWith_splitOn] at hname
  dsimp only at hname
  split at hname
  · cases hname
  · rename_i hnone
    cases hname
    refine ⟨rfl, fun c hc => ?_⟩
    rw [← Bool.not_eq_true]
    exact fun hforbidden => hnone (List.any_eq_true.mpr ⟨c, hc, hforbidden⟩)

/-! ## §3 Hosts of Special Schemes -/

/-- What is read of a host of ASCII without escapes: an address if its last label is a number, and
else its name, in lower case. -/
theorem ofSpecial_of_ascii {cs : List Char} {h : Host} (hascii : ∀ c ∈ cs, c.toNat < 0x80)
    (hescape : '%' ∉ cs) (hopen : cs.head? ≠ some '[') (hread : ofSpecial cs = .ok h) :
    (∀ c ∈ cs, isForbiddenInDomain c.toLower = false) ∧
      (endsInNumber (cs.map Char.toLower) = true ∧
          (∃ a, ipv4? (cs.map Char.toLower) = some a ∧ h = .ipv4 a) ∨
        endsInNumber (cs.map Char.toLower) = false ∧
          h = .domain (String.ofList (cs.map Char.toLower))) := by
  unfold ofSpecial at hread
  split at hread
  · exact absurd rfl hopen
  -- without escapes the text that is decoded is the text itself
  · rw [Percent.toText?_decode hascii hescape] at hread
    dsimp only at hread
    rw [String.toList_ofList] at hread
    split at hread
    · cases hread
    · cases hread
    · rename_i name _ hname
      obtain ⟨rfl, hlegal⟩ := asciiDomain?_of_ascii hascii hname
      refine ⟨fun c hc => hlegal _ (List.mem_map_of_mem hc), ?_⟩
      split at hread
      -- a name that ends in a number has to be an address, or it is refused
      · rename_i hnumber
        split at hread
        · rename_i a ha
          cases hread
          exact .inl ⟨hnumber, a, ha, rfl⟩
        · cases hread
      · rename_i hnumber
        cases hread
        exact .inr ⟨Bool.not_eq_true _ ▸ hnumber, rfl⟩

/-- What is read between brackets is an IPv6 address. -/
theorem ofSpecial_of_bracket {rest : List Char} {h : Host} (hread : ofSpecial ('[' :: rest) = .ok h) :
    ∃ inner a, rest = inner ++ [']'] ∧ Net.Ipv6.ofChars? inner = some a ∧ h = .ipv6 a := by
  have hread' : ofBracketed rest = .ok h := hread
  unfold ofBracketed at hread'
  split at hread'
  · rename_i hlast
    split at hread'
    · rename_i a ha
      cases hread'
      obtain ⟨inner, rfl⟩ := List.getLast?_eq_some_iff.mp hlast
      rw [List.dropLast_concat] at ha
      exact ⟨inner, a, rfl, ha, rfl⟩
    · cases hread'
  · cases hread'

/-- No host is read of a name without characters. -/
theorem ne_empty_of_ofSpecial {cs : List Char} {h : Host} (hread : ofSpecial cs = .ok h) :
    h ≠ .domain "" := by
  rintro rfl
  unfold ofSpecial at hread
  split at hread
  · obtain ⟨_, _, _, _, heq⟩ := ofSpecial_of_bracket hread
    cases heq
  · split at hread
    · cases hread
    · split at hread
      · cases hread
      · cases hread
      · rename_i name hsome _
        split at hread
        · split at hread <;> cases hread
        · have hname := Host.domain.inj (Except.ok.inj hread)
          exact hsome (by simpa using congrArg String.toList hname)

section Numbers

open Net.Ipv4

variable {ds : List Char} {n : Nat}

/-- The digits of an octet are a decimal part of an address. -/
theorem numberPart?_of_octet (h : IsOctet ds n) : numberPart? ds = some n := by
  unfold numberPart?
  split
  · exact absurd rfl h.ne_nil
  · exact absurd (h.digits 'x' (by simp)) (by decide)
  · rcases h.noZero with hzero | hone
    · exact absurd rfl hzero
    · cases hone
  · exact h.value

theorem dot_not_mem_of_octet (h : IsOctet ds n) : '.' ∉ ds := by
  intro hmem
  exact absurd (h.digits '.' hmem) (by decide)

/-- An address of four plain numbers is read as an address in a URL too. -/
theorem ipv4?_of_ofChars? {cs : List Char} {a : Net.Ipv4} (h : Net.Ipv4.ofChars? cs = some a) :
    endsInNumber cs = true ∧ ipv4? cs = some a := by
  obtain ⟨ds₁, n₁, ds₂, n₂, ds₃, n₃, ds₄, n₄, h₁, h₂, h₃, h₄, hcs, rfl⟩ :=
    read?_parts (read?_of_ofChars? h)
  have hsplit : splitOn '.' cs = [ds₁, ds₂, ds₃, ds₄] := by
    rw [hcs, Url.splitOn_eq, List.append_nil, List.splitOn_append_cons_self,
      List.splitOn_append_cons_self, List.splitOn_append_cons_self,
      List.splitOn_eq_singleton (dot_not_mem_of_octet h₁),
      List.splitOn_eq_singleton (dot_not_mem_of_octet h₂),
      List.splitOn_eq_singleton (dot_not_mem_of_octet h₃),
      List.splitOn_eq_singleton (dot_not_mem_of_octet h₄)]
    rfl
  constructor
  · have hlast : lastLabel? [ds₁, ds₂, ds₃, ds₄] = some ds₄ := by
      obtain ⟨c, cs, rfl⟩ := List.exists_cons_of_ne_nil h₄.ne_nil
      rfl
    have hdigits : ds₄.all Text.isDigit = true := List.all_eq_true.mpr h₄.digits
    simp [endsInNumber, hsplit, hlast, h₄.ne_nil, hdigits]
  · have hkept : ([ds₁, ds₂, ds₃, ds₄].getLast? = some []) = False := by
      simp [h₄.ne_nil]
    have hnumbers : [ds₁, ds₂, ds₃, ds₄].mapM numberPart? = some [n₁, n₂, n₃, n₄] := by
      simp [numberPart?_of_octet h₁, numberPart?_of_octet h₂, numberPart?_of_octet h₃,
        numberPart?_of_octet h₄]
    have hfront : [n₃, n₂, n₁].any (255 < ·) = false := by
      simp [h₁.small, h₂.small, h₃.small]
    -- three octets are given, so one is left for the last number
    have hvalue : ofNumbers? [n₁, n₂, n₃, n₄] = some (ofOctets [n₁, n₂, n₃, n₄]) := by
      have hroom : ¬ Nat.pow 256 (4 - 3) ≤ n₄ := by
        have hsmall := h₄.small
        simp only [Nat.pow_eq]
        omega
      have hjoin : Text.ofDigits 256 [n₁, n₂, n₃, n₄] =
          Text.ofDigits 256 [n₁, n₂, n₃] * Nat.pow 256 (4 - 3) + n₄ :=
        Text.ofDigits_concat 256 [n₁, n₂, n₃] n₄
      show (if 4 ≤ 3 || [n₃, n₂, n₁].any (255 < ·) || Nat.pow 256 (4 - 3) ≤ n₄ then none
        else some (Net.Ipv4.mk (BitVec.ofNat 32
          (Text.ofDigits 256 [n₁, n₂, n₃] * Nat.pow 256 (4 - 3) + n₄)))) = _
      rw [hfront, decide_eq_false hroom, ofOctets, hjoin]
      rfl
    simp only [ipv4?, hsplit, hkept, if_false, hnumbers, Option.bind_eq_bind, Option.bind_some,
      hvalue]

end Numbers

end Host

namespace Url

/-! ## §4 Where a Host Ends -/

/-- A host and what follows it make up the text again. -/
theorem splitHost_join {inside : Bool} {cs host : List Char} {port : Option (List Char)}
    (h : splitHost inside cs = (host, port)) : cs = host ++ (port.map (':' :: ·)).getD [] := by
  induction cs generalizing inside host port with
  | nil =>
    cases h
    rfl
  | cons c cs ih =>
    rw [splitHost] at h
    split at h
    · rename_i hcolon
      obtain ⟨rfl, -⟩ : c = ':' ∧ inside = false := by simpa using hcolon
      cases h
      rfl
    · cases h
      rw [List.cons_append, ← ih rfl]

end Url

end BuildBroker
