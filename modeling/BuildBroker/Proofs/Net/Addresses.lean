import BuildBroker.Net.Address
import BuildBroker.Proofs.Text.Written
import Mathlib.Data.List.TakeWhile

/-!
# Addresses in Text

An IPv4 address is read back from its written form, and whatever text is read as one consists of four
numbers with full stops between them. A text that is read as an IPv6 address has two colons at least,
so no text is both.

Main statements:
- `Ipv4.octet?_written`: a number is read back from the front of a text.
- `Ipv4.ofChars?_toText`: an address is read back from its written form.
- `Ipv4.read?_parts`: the four numbers of a text that is read as an address.
- `Ipv6.readGroups_parts`, `Ipv6.parts_of_ofChars?`: the characters of an IPv6 address.
- `Ip.ofChars?_cases`: an address of either kind.
-/

namespace BuildBroker.Net

namespace Ipv4

/-! ## §1 Writing IPv4 Addresses -/

/-- The digits of a number that an octet holds. -/
theorem octetDigits_spec : ∀ n < 256,
    (toString n).toList.all Text.isDigit = true ∧ (toString n).toList.length ≤ 3 ∧
      ((toString n).toList.head? ≠ some '0' ∨ (toString n).toList.length = 1) ∧
      Text.readDigits? 10 (toString n).toList = some n := by
  decide +kernel

/-- A number is read back from the front of a text that goes on with something else. -/
theorem octet?_written {n : Nat} (h : n < 256) {rest : List Char}
    (hrest : ∀ c ∈ rest.head?, Text.isDigit c = false) :
    octet? ((toString n).toList ++ rest) = some (n, rest) := by
  obtain ⟨hdigits, hlength, hzero, hread⟩ := octetDigits_spec n h
  generalize (toString n).toList = ds at hdigits hlength hzero hread
  have hstop : rest.takeWhile Text.isDigit = [] := by
    cases rest with
    | nil => rfl
    | cons c rest => simp [hrest c rfl]
  have htaken : ((ds ++ rest).takeWhile Text.isDigit).take 4 = ds := by
    rw [List.takeWhile_append_of_pos (List.all_eq_true.mp hdigits), hstop, List.append_nil,
      List.take_of_length_le (by omega)]
  have hsmall : n ≤ 255 := by omega
  simp only [octet?, htaken, if_pos (And.intro hlength hzero), hread, Option.bind_eq_bind,
    Option.bind_some, if_pos hsmall, List.drop_left]

/-- An address is read back from its four numbers. -/
theorem octets?_written {a b c d : Nat} (ha : a < 256) (hb : b < 256) (hc : c < 256) (hd : d < 256) :
    octets? 4 ((toString a).toList ++ '.' :: ((toString b).toList ++ '.' ::
      ((toString c).toList ++ '.' :: (toString d).toList))) = some ([a, b, c, d], []) := by
  have hdot : ∀ (cs : List Char), ∀ x ∈ ('.' :: cs).head?, Text.isDigit x = false := by
    intro cs x hx
    cases hx
    decide
  have hlast : octet? (toString d).toList = some (d, []) := by
    have hread : octet? ((toString d).toList ++ []) = some (d, []) := octet?_written hd nofun
    rwa [List.append_nil] at hread
  simp only [octets?, octet?_written ha (hdot _), octet?_written hb (hdot _),
    octet?_written hc (hdot _), hlast, Option.bind_eq_bind, Option.bind_some]

theorem toList_toText (a : Ipv4) : ∃ w x y z, w < 256 ∧ x < 256 ∧ y < 256 ∧ z < 256 ∧
    a.octets = [w, x, y, z] ∧ a.toText.toList =
      (toString w).toList ++ '.' :: ((toString x).toList ++ '.' ::
        ((toString y).toList ++ '.' :: (toString z).toList)) := by
  have hlt : ∀ n : Nat, n % 256 < 256 := fun n => Nat.mod_lt n (by decide)
  refine ⟨_, _, _, _, hlt _, hlt _, hlt _, hlt _, rfl, ?_⟩
  have hjoin : ∀ p q r s : String, ".".intercalate [p, q, r, s] =
      p ++ "." ++ q ++ "." ++ r ++ "." ++ s := fun _ _ _ _ => rfl
  simp [toText, octets, Text.fixedDigits, hjoin]

/-- An address is read back from its written form. -/
theorem ofChars?_toText (a : Ipv4) : ofChars? a.toText.toList = some a := by
  obtain ⟨w, x, y, z, hw, hx, hy, hz, hoctets, htext⟩ := toList_toText a
  have hback : ofOctets [w, x, y, z] = a := by
    have hsize : a.bits.toNat < 256 ^ 4 := a.bits.isLt
    rw [← hoctets, ofOctets, octets, Text.ofDigits_fixedDigits, Nat.mod_eq_of_lt hsize,
      BitVec.ofNat_toNat, BitVec.setWidth_eq]
  simp only [ofChars?, read?, htext, octets?_written hw hx hy hz, Option.map_some, hback]

/-! ## §2 Reading IPv4 Addresses -/

/-- The digits that an octet of an address is written with. -/
structure IsOctet (ds : List Char) (n : Nat) : Prop where
  digits : ∀ c ∈ ds, Text.isDigit c = true
  noZero : ds.head? ≠ some '0' ∨ ds.length = 1
  value : Text.readDigits? 10 ds = some n
  small : n ≤ 255

theorem IsOctet.ne_nil {ds : List Char} {n : Nat} (h : IsOctet ds n) : ds ≠ [] := by
  rintro rfl
  cases h.value

/-- What is read of an octet stands in front of the rest. -/
theorem octet?_parts {cs rest : List Char} {n : Nat} (h : octet? cs = some (n, rest)) :
    ∃ ds, cs = ds ++ rest ∧ IsOctet ds n := by
  simp only [octet?] at h
  split at h
  · rename_i hform
    obtain ⟨m, hread, h⟩ := Option.bind_eq_some_iff.mp h
    split at h
    · rename_i hsmall
      cases h
      -- no more digits stand there than were taken
      have hprefix : (cs.takeWhile Text.isDigit).take 4 <+: cs :=
        (List.take_prefix _ _).trans (List.takeWhile_prefix _)
      refine ⟨_, (List.prefix_iff_eq_append.mp hprefix).symm, ?_, hform.2, hread, hsmall⟩
      intro c hc
      exact List.mem_takeWhile_imp (List.mem_of_mem_take hc)
    · cases h
  · cases h

theorem octets?_parts {left : Nat} {cs rest : List Char} {ns : List Nat}
    (h : octets? (left + 2) cs = some (ns, rest)) :
    ∃ ds n tail ms, IsOctet ds n ∧ cs = ds ++ '.' :: tail ∧ ns = n :: ms ∧
      octets? (left + 1) tail = some (ms, rest) := by
  rw [octets?] at h
  obtain ⟨⟨n, after⟩, hoctet, hmore⟩ := Option.bind_eq_some_iff.mp h
  clear h
  obtain ⟨ds, rfl, hds⟩ := octet?_parts hoctet
  dsimp only at hmore
  split at hmore
  · rename_i heq
    cases heq
  · obtain ⟨⟨ms, tail⟩, hrest, heq⟩ := Option.bind_eq_some_iff.mp hmore
    cases heq
    exact ⟨ds, n, _, ms, hds, rfl, rfl, hrest⟩
  · cases hmore

/-- Four numbers with full stops between them stand in front of the rest. -/
theorem read?_parts {cs rest : List Char} {a : Ipv4} (h : read? cs = some (a, rest)) :
    ∃ ds₁ n₁ ds₂ n₂ ds₃ n₃ ds₄ n₄,
      IsOctet ds₁ n₁ ∧ IsOctet ds₂ n₂ ∧ IsOctet ds₃ n₃ ∧ IsOctet ds₄ n₄ ∧
      cs = ds₁ ++ '.' :: (ds₂ ++ '.' :: (ds₃ ++ '.' :: (ds₄ ++ rest))) ∧
      a = ofOctets [n₁, n₂, n₃, n₄] := by
  obtain ⟨⟨ns, after⟩, hfirst, heq⟩ := Option.map_eq_some_iff.mp h
  cases heq
  obtain ⟨ds₁, n₁, tail₁, ms₁, h₁, rfl, rfl, hsecond⟩ := octets?_parts hfirst
  obtain ⟨ds₂, n₂, tail₂, ms₂, h₂, rfl, rfl, hthird⟩ := octets?_parts hsecond
  obtain ⟨ds₃, n₃, tail₃, ms₃, h₃, rfl, rfl, hfourth⟩ := octets?_parts hthird
  rw [octets?] at hfourth
  obtain ⟨⟨n₄, after⟩, hoctet, heq⟩ := Option.bind_eq_some_iff.mp hfourth
  cases heq
  obtain ⟨ds₄, rfl, h₄⟩ := octet?_parts hoctet
  exact ⟨ds₁, n₁, ds₂, n₂, ds₃, n₃, ds₄, n₄, h₁, h₂, h₃, h₄, rfl, rfl⟩

/-- An address is read of nothing but digits and full stops. -/
theorem chars_of_read? {cs rest : List Char} {a : Ipv4} (h : read? cs = some (a, rest)) :
    ∃ text, cs = text ++ rest ∧ ∀ c ∈ text, Text.isDigit c = true ∨ c = '.' := by
  obtain ⟨ds₁, n₁, ds₂, n₂, ds₃, n₃, ds₄, n₄, h₁, h₂, h₃, h₄, rfl, -⟩ := read?_parts h
  refine ⟨ds₁ ++ '.' :: (ds₂ ++ '.' :: (ds₃ ++ '.' :: ds₄)), by simp, ?_⟩
  intro c hc
  simp only [List.mem_append, List.mem_cons] at hc
  rcases hc with hc | rfl | hc | rfl | hc | rfl | hc
  · exact .inl (h₁.digits c hc)
  · exact .inr rfl
  · exact .inl (h₂.digits c hc)
  · exact .inr rfl
  · exact .inl (h₃.digits c hc)
  · exact .inr rfl
  · exact .inl (h₄.digits c hc)

theorem read?_of_ofChars? {cs : List Char} {a : Ipv4} (h : ofChars? cs = some a) :
    read? cs = some (a, []) := by
  unfold ofChars? at h
  split at h
  · cases h
    assumption
  · cases h

theorem chars_of_ofChars? {cs : List Char} {a : Ipv4} (h : ofChars? cs = some a) :
    ∀ c ∈ cs, Text.isDigit c = true ∨ c = '.' := by
  obtain ⟨text, rfl, hchars⟩ := chars_of_read? (read?_of_ofChars? h)
  rw [List.append_nil]
  exact hchars

end Ipv4

namespace Ipv6

/-! ## §3 Reading IPv6 Addresses -/

/-- The characters of an IPv6 address. -/
def isAddressChar (c : Char) : Bool :=
  Text.isHexDigit c || c = ':' || c = '.'

theorem isAddressChar_of_digit {c : Char} (h : Text.isDigit c = true) : isAddressChar c = true := by
  have hvalue : (Text.digitValue? c).isSome = true := by
    rw [Text.isDigit, Bool.and_eq_true, decide_eq_true_eq, decide_eq_true_eq] at h
    rw [Text.digitValue?, if_pos h]
    rfl
  simp [isAddressChar, Text.isHexDigit, hvalue]

/-- What is read of a group stands in front of the rest. -/
theorem group?_parts {cs rest : List Char} {g : Nat} (h : group? cs = some (g, rest)) :
    ∃ ds, cs = ds ++ rest ∧ ∀ c ∈ ds, isAddressChar c = true := by
  obtain ⟨n, -, heq⟩ := Option.map_eq_some_iff.mp h
  cases heq
  have hprefix : (cs.takeWhile Text.isHexDigit).take 4 <+: cs :=
    (List.take_prefix _ _).trans (List.takeWhile_prefix _)
  refine ⟨_, (List.prefix_iff_eq_append.mp hprefix).symm, ?_⟩
  intro c hc
  have hdigit : Text.isHexDigit c = true := List.mem_takeWhile_imp (List.mem_of_mem_take hc)
  simp [isAddressChar, hdigit]

/-- Before every group but the first there is a colon. -/
theorem afterColon?_parts {first : Bool} {cs rest : List Char}
    (h : afterColon? first cs = some rest) :
    cs = (if first then [] else [':']) ++ rest := by
  cases first with
  | true =>
    cases h
    rfl
  | false =>
    unfold afterColon? at h
    simp only [Bool.false_eq_true, if_false] at h
    split at h
    · cases h
      rfl
    · cases h

theorem colon_isAddressChar (first : Bool) :
    ∀ c ∈ (if first then [] else [':']), isAddressChar c = true := by
  intro c hc
  cases first with
  | true => cases hc
  | false =>
    cases List.mem_singleton.mp hc
    rfl

/-- What is read of groups stands in front of the rest, and has a colon for every group but the
first; an IPv4 address at the end counts as two groups. -/
theorem readGroups_parts {first : Bool} {room : Nat} {cs : List Char} {gs : List Nat} {v4 : Bool}
    {rest : List Char} (h : readGroups first room cs = (gs, v4, rest)) :
    ∃ text, cs = text ++ rest ∧ (∀ c ∈ text, isAddressChar c = true) ∧
      gs.length ≤ text.count ':' + (if first then 1 else 0) + (if v4 then 1 else 0) := by
  -- by the room that is left; in each turn an IPv4 address is tried first
  induction room generalizing first cs gs v4 rest with
  | zero =>
    cases h
    exact ⟨[], rfl, nofun, Nat.zero_le _⟩
  | succ room ih =>
    rw [readGroups] at h
    dsimp only at h
    split at h
    · -- the groups end in an IPv4 address
      rename_i a after hembedded
      cases h
      split at hembedded
      · cases hembedded
      · obtain ⟨behind, hcolon, hread⟩ := Option.bind_eq_some_iff.mp hembedded
        obtain ⟨text, rfl, htext⟩ := Ipv4.chars_of_read? hread
        refine ⟨(if first then [] else [':']) ++ text, ?_, ?_, ?_⟩
        · rw [afterColon?_parts hcolon, List.append_assoc]
        · intro c hc
          rcases List.mem_append.mp hc with hfirst | hc
          · exact colon_isAddressChar first c hfirst
          · rcases htext c hc with hdigit | rfl
            · exact isAddressChar_of_digit hdigit
            · rfl
        · rw [Text.length_fixedDigits, List.count_append]
          cases first <;> simp
    · split at h
      · rename_i g after hgroup
        obtain ⟨behind, hcolon, hread⟩ := Option.bind_eq_some_iff.mp hgroup
        obtain ⟨ds, rfl, hds⟩ := group?_parts hread
        -- one group, with its colon, and then the groups behind it
        rcases hmore : readGroups false room after with ⟨gs', v4', rest'⟩
        rw [hmore] at h
        cases h
        obtain ⟨text, rfl, htext, hcount⟩ := ih hmore
        refine ⟨(if first then [] else [':']) ++ (ds ++ text), ?_, ?_, ?_⟩
        · rw [afterColon?_parts hcolon]
          simp
        · intro c hc
          rcases List.mem_append.mp hc with hfirst | hc
          · exact colon_isAddressChar first c hfirst
          · rcases List.mem_append.mp hc with hc | hc
            · exact hds c hc
            · exact htext c hc
        · rw [List.count_append, List.count_append, List.length_cons]
          cases first <;> simp at hcount ⊢
          all_goals omega
      · cases h
        exact ⟨[], rfl, nofun, Nat.zero_le _⟩

/-- Two colons at least stand in an address. -/
theorem parts_of_ofChars? {cs : List Char} {a : Ipv6} (h : ofChars? cs = some a) :
    (∀ c ∈ cs, isAddressChar c = true) ∧ 2 ≤ cs.count ':' := by
  have hread : read? cs = some (a, []) := by
    unfold ofChars? at h
    split at h
    · cases h
      assumption
    · cases h
  unfold read? at hread
  rcases hhead : readGroups true 8 cs with ⟨head, headV4, after⟩
  obtain ⟨text, rfl, htext, hcount⟩ := readGroups_parts hhead
  rw [hhead] at hread
  dsimp only at hread
  split at hread
  · -- eight groups have seven colons between them, or six with an IPv4 address
    rename_i hlength
    cases hread
    rw [List.append_nil]
    refine ⟨htext, ?_⟩
    rw [hlength] at hcount
    cases headV4 <;> simp at hcount <;> omega
  · split at hread
    · cases hread
    · split at hread
      -- the mark alone has two colons
      · rename_i tail
        rcases htail : readGroups true (8 - (head.length + 1)) tail with ⟨gs, v4, behind⟩
        obtain ⟨text', rfl, htext', -⟩ := readGroups_parts htail
        rw [htail] at hread
        cases hread
        constructor
        · intro c hc
          simp only [List.append_nil, List.mem_append, List.mem_cons] at hc
          rcases hc with hc | rfl | rfl | hc
          · exact htext c hc
          · rfl
          · rfl
          · exact htext' c hc
        · simp only [List.append_nil, List.count_append, List.count_cons_self]
          omega
      · cases hread

end Ipv6

/-! ## §4 Reading Addresses of Either Kind -/

/-- A text is read as an IPv4 address first, and as an IPv6 address only if it is none. -/
theorem Ip.ofChars?_cases {cs : List Char} {ip : Ip} (h : ofChars? cs = some ip) :
    (∃ a, Ipv4.ofChars? cs = some a ∧ ip = .v4 a) ∨
      ∃ a, Ipv6.ofChars? cs = some a ∧ ip = .v6 a := by
  unfold ofChars? at h
  split at h
  · rename_i a ha
    cases h
    exact .inl ⟨a, ha, rfl⟩
  · obtain ⟨a, ha, heq⟩ := Option.map_eq_some_iff.mp h
    exact .inr ⟨a, ha, heq.symm⟩

end BuildBroker.Net
