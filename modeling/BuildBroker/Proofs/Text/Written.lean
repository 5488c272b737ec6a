import BuildBroker.Build.Id
import BuildBroker.Text.Bytes
import Mathlib.Algebra.GroupWithZero.Nat

/-!
# What Is Written Is Read Back

Octets of ASCII are read one by one, digits give back the number they were written for, and an id is
read from its written form. A written id consists of plain characters, which need no escape in any
part of a URL.

Main statements:
- `Bytes.symbols_of_ascii`: octets of ASCII are their own characters.
- `Bytes.ofText_of_ascii`: a text of ASCII is written as the octets that it was read from.
- `Text.toText?_of_plain`: a plain text is read back from its octets.
- `Text.readDigits?_fixedHex`: digits are read back.
- `Uuid.plain_toChars`, `BuildId.ofText_toText`: a written id is plain, and is read back.
-/

namespace BuildBroker

/-! ## §1 Octets of ASCII -/

namespace Bytes

/-- Octets that are characters by themselves are read one by one. -/
theorem symbols_of_ascii {body : Bytes} (h : ∀ b ∈ body, b < 0x80) :
    body.symbols = body.map fun b => some (Char.ofNat b.toNat) := by
  -- what has been read so far is kept in reverse, and stands before the rest
  have hfrom : ∀ read : List (Option Char), Bytes.symbolsFrom read 0 body =
      read.reverse ++ body.map fun b => some (Char.ofNat b.toNat) := by
    induction body with
    | nil =>
      intro read
      simp [Bytes.symbolsFrom]
    | cons b rest ih =>
      intro read
      have hb : b < 0x80 := h b (by simp)
      simp only [Bytes.symbolsFrom, Bytes.firstChar?, if_pos hb]
      rw [ih fun x hx => h x (by simp [hx])]
      simp
  exact hfrom []

theorem allChars?_map_some (read cs : List Char) :
    allChars? read (cs.map some) = some (read.reverse ++ cs) := by
  induction cs generalizing read with
  | nil => simp [allChars?]
  | cons c cs ih => simp [allChars?, ih]

theorem toText?_of_ascii {body : Bytes} (h : ∀ b ∈ body, b < 0x80) :
    body.toText? = some (String.ofList (body.map fun b => Char.ofNat b.toNat)) := by
  have hsymbols : body.symbols = (body.map fun b => Char.ofNat b.toNat).map some := by
    rw [symbols_of_ascii h, List.map_map]
    rfl
  rw [toText?, hsymbols, allChars?_map_some]
  rfl

/-- A text of ASCII is written as the octets that it was read from. -/
theorem ofText_of_ascii {body : Bytes} {t : String} (h : ∀ b ∈ body, b < 0x80)
    (ht : body.toText? = some t) : ofText t = body := by
  have hoctet : ∀ n < 128, String.utf8EncodeChar (Char.ofNat n) = [UInt8.ofNat n] := by
    decide +kernel
  rw [toText?_of_ascii h, Option.some.injEq] at ht
  rw [← ht, ofText, String.toList_ofList, ofChars]
  clear ht
  induction body with
  | nil => rfl
  | cons b rest ih =>
    have hb : b.toNat < 128 := h b (by simp)
    rw [List.map_cons, List.flatMap_cons, ih fun x hx => h x (by simp [hx]), hoctet _ hb]
    simp

end Bytes

/-! ## §2 Plain Text -/

namespace Text

/-- The characters of written ids and of the names of routes. -/
def plainChars : List Char :=
  "-0123456789abcdefghijklmnopqrstuvwxyz".toList

/-- Plain text keeps its form wherever it stands. -/
def IsPlain (cs : List Char) : Prop :=
  ∀ c ∈ cs, c ∈ plainChars

instance (cs : List Char) : Decidable (IsPlain cs) :=
  List.decidableBAll _ cs

/-- What every character of a text is seen to have. -/
theorem forall_of_all {P : Char → Prop} [DecidablePred P] {cs : List Char}
    (h : cs.all (fun c => decide (P c)) = true) : ∀ c ∈ cs, P c := by
  intro c hc
  exact of_decide_eq_true (List.all_eq_true.mp h c hc)

/-- What every plain character is seen to have, the characters of a plain text have. -/
theorem IsPlain.forall {P : Char → Prop} [DecidablePred P] {cs : List Char} (h : IsPlain cs)
    (hP : plainChars.all (fun c => decide (P c)) = true) : ∀ c ∈ cs, P c := by
  intro c hc
  exact forall_of_all hP c (h c hc)

theorem isPlain_plainChars : IsPlain plainChars :=
  fun _ hc => hc

/-- A plain character is written as one octet, which is the character and begins no escape. -/
theorem octet_of_plain : ∀ c ∈ plainChars, String.utf8EncodeChar c = [UInt8.ofNat c.toNat] ∧
    UInt8.ofNat c.toNat < 0x80 ∧ UInt8.ofNat c.toNat ≠ 0x25 ∧
    Char.ofNat (UInt8.ofNat c.toNat).toNat = c :=
  isPlain_plainChars.forall (by decide +kernel)

theorem ofChars_of_plain {cs : List Char} (h : IsPlain cs) :
    Bytes.ofChars cs = cs.map fun c => UInt8.ofNat c.toNat := by
  induction cs with
  | nil => rfl
  | cons c cs ih =>
    have hrest : Bytes.ofChars cs = _ := ih fun x hx => h x (by simp [hx])
    have hoctet := (octet_of_plain c (h c (by simp))).1
    rw [List.map_cons, ← hrest, Bytes.ofChars, List.flatMap_cons, hoctet]
    rfl

/-- A plain text is read back from its octets. -/
theorem toText?_of_plain {cs : List Char} (h : IsPlain cs) :
    (Bytes.ofChars cs).toText? = some (String.ofList cs) := by
  have hascii : ∀ b ∈ cs.map fun c => UInt8.ofNat c.toNat, b < 0x80 := by
    intro b hb
    obtain ⟨c, hc, rfl⟩ := List.mem_map.mp hb
    exact (octet_of_plain c (h c hc)).2.1
  have hback : (cs.map fun c => UInt8.ofNat c.toNat).map (fun b => some (Char.ofNat b.toNat)) =
      cs.map some := by
    rw [List.map_map]
    apply List.map_congr_left
    intro c hc
    exact congrArg some (octet_of_plain c (h c hc)).2.2.2
  rw [ofChars_of_plain h, Bytes.toText?, Bytes.symbols_of_ascii hascii, hback,
    Bytes.allChars?_map_some]
  rfl

/-- No blank is dropped where there is none. -/
theorem dropBlank_of_plain {cs : List Char} (h : IsPlain cs) : dropBlank cs = cs := by
  cases cs with
  | nil => rfl
  | cons c cs =>
    have hc : isBlank c = false := h.forall (P := (isBlank · = false)) (by decide) c (by simp)
    simp [dropBlank, hc]

/-- Nothing is trimmed of a plain text. -/
theorem trim_of_plain {cs : List Char} (h : IsPlain cs) :
    trim (String.ofList cs) = String.ofList cs := by
  have hreverse : IsPlain cs.reverse := fun c hc => h c (List.mem_reverse.mp hc)
  simp [trim, trimChars, dropBlankEnd, dropBlank_of_plain h, dropBlank_of_plain hreverse]

/-! ## §3 Digits -/

theorem ofDigits_concat (base : Nat) (ds : List Nat) (d : Nat) :
    ofDigits base (ds ++ [d]) = ofDigits base ds * base + d := by
  simp [ofDigits]

/-- The digits that are kept of a number denote its remainder. -/
theorem ofDigits_fixedDigits (base width n : Nat) :
    ofDigits base (fixedDigits base width n) = n % base ^ width := by
  -- the last digit is the remainder by the base, the others are those of the quotient
  induction width generalizing n with
  | zero => simp [fixedDigits, ofDigits, Nat.mod_one]
  | succ width ih =>
    rw [fixedDigits, ofDigits_concat, ih, Nat.pow_succ', Nat.mod_mul, Nat.mul_comm, Nat.add_comm]

theorem lt_of_mem_fixedDigits {base width n d : Nat} (hbase : 0 < base)
    (hd : d ∈ fixedDigits base width n) : d < base := by
  induction width generalizing n with
  | zero => cases hd
  | succ width ih =>
    rcases List.mem_append.mp hd with hfront | hlast
    · exact ih hfront
    · rw [List.mem_singleton.mp hlast]
      exact Nat.mod_lt n hbase

/-- A hexadecimal digit is plain, is no hyphen, and is read back. -/
theorem hexDigit_spec :
    ∀ d < 16, hexDigit d ∈ plainChars ∧ hexDigit d ≠ '-' ∧ digitValue? (hexDigit d) = some d := by
  decide

theorem mapM_digitValue? {ds : List Nat} (h : ∀ d ∈ ds, d < 16) :
    (ds.map hexDigit).mapM digitValue? = some ds := by
  induction ds with
  | nil => rfl
  | cons d ds ih =>
    have hd := (hexDigit_spec d (h d (by simp))).2.2
    simp [hd, ih fun x hx => h x (by simp [hx])]

/-- Hexadecimal digits are read back. -/
theorem readDigits?_fixedHex {width : Nat} (hwidth : width ≠ 0) (n : Nat) :
    readDigits? 16 (fixedHex width n) = some (n % 16 ^ width) := by
  have hsmall : ∀ d ∈ fixedDigits 16 width n, d < 16 :=
    fun _ hd => lt_of_mem_fixedDigits (by decide) hd
  have hlength : (fixedHex width n).length = width := by simp [fixedHex, length_fixedDigits]
  unfold readDigits?
  split
  · rename_i hnil
    rw [hnil] at hlength
    exact absurd hlength.symm hwidth
  · simp only [fixedHex, mapM_digitValue? hsmall, Option.bind_eq_bind, Option.bind_some]
    rw [if_pos (by simpa using hsmall), ofDigits_fixedDigits]

end Text

/-! ## §4 Ids -/

namespace Uuid

/-- The groups of digits make up the digits. -/
theorem groups_append (ds : List Char) :
    ds.take 8 ++ ((ds.drop 8).take 4 ++ ((ds.drop 12).take 4 ++
      ((ds.drop 16).take 4 ++ ds.drop 20))) = ds := by
  have hgroup : ∀ n : Nat, (ds.drop n).take 4 ++ ds.drop (n + 4) = ds.drop n := by
    intro n
    rw [← List.drop_drop, List.take_append_drop]
  rw [hgroup 16, hgroup 12, hgroup 8, List.take_append_drop]

/-- Without its hyphens a written id is its digits. -/
theorem filter_hyphenate {ds : List Char} (h : '-' ∉ ds) :
    (hyphenate ds).filter (· ≠ '-') = ds := by
  have hkept : ∀ part : List Char, part ⊆ ds → part.filter (· ≠ '-') = part := by
    intro part hpart
    apply List.filter_eq_self.mpr
    intro c hc
    have hne : c ≠ '-' := by
      rintro rfl
      exact h (hpart hc)
    simpa using hne
  have hmiddle : ∀ n : Nat, (ds.drop n).take 4 ⊆ ds :=
    fun n => List.Subset.trans (List.take_subset 4 _) (List.drop_subset n ds)
  -- no group has lost a digit, and the groups make up the digits
  refine Eq.trans ?_ (groups_append ds)
  simp only [hyphenate, List.filter_append, List.filter_cons, List.append_assoc, List.cons_append,
    hkept _ (List.take_subset 8 ds), hkept _ (hmiddle _), hkept _ (List.drop_subset 20 ds)]
  simp

theorem length_digits (u : Uuid) : u.digits.length = 32 := by
  simp [digits, Text.fixedHex, Text.length_fixedDigits]

theorem digit_of_mem_digits {u : Uuid} {c : Char} (hc : c ∈ u.digits) :
    ∃ d < 16, c = Text.hexDigit d := by
  obtain ⟨d, hd, rfl⟩ := List.mem_map.mp hc
  exact ⟨d, Text.lt_of_mem_fixedDigits (by decide) hd, rfl⟩

/-- Hyphens apart, the characters of a written id are digits. -/
theorem mem_hyphenate {ds : List Char} {c : Char} (hc : c ∈ hyphenate ds) : c = '-' ∨ c ∈ ds := by
  by_cases hhyphen : c = '-'
  · exact .inl hhyphen
  · refine .inr ?_
    rw [← groups_append ds]
    simpa [hyphenate, hhyphen] using hc

/-- A written id is plain. -/
theorem plain_toChars (u : Uuid) : Text.IsPlain u.toChars := by
  intro c hc
  rcases mem_hyphenate hc with rfl | hdigit
  · decide
  · obtain ⟨d, hd, rfl⟩ := digit_of_mem_digits hdigit
    exact (Text.hexDigit_spec d hd).1

theorem length_toChars (u : Uuid) : u.toChars.length = 36 := by
  simp [toChars, hyphenate, length_digits]

/-- An id is read back from its written form. -/
theorem ofText?_toText (u : Uuid) : ofText? u.toText = some u := by
  have hhyphen : '-' ∉ u.digits := by
    intro hmem
    obtain ⟨d, hd, heq⟩ := digit_of_mem_digits hmem
    exact (Text.hexDigit_spec d hd).2.1 heq.symm
  have hsize : u.bits.toNat < 16 ^ 32 := u.bits.isLt
  have hback : ofDigits? u.digits = some u := by
    rw [ofDigits?, if_pos u.length_digits, digits, Text.readDigits?_fixedHex (by decide),
      Option.map_some, Nat.mod_eq_of_lt hsize, BitVec.ofNat_toNat, BitVec.setWidth_eq]
  -- by its length the text is read as the hyphenated form
  have hlength := u.length_toChars
  simp only [ofText?, toText, String.toList_ofList, ofChars?, hlength]
  rw [if_neg (by decide), if_pos trivial, ofHyphenated?, toChars, filter_hyphenate hhyphen,
    if_pos rfl]
  exact hback

end Uuid

/-- A build id is read back from its written form. -/
theorem BuildId.ofText_toText (id : BuildId) : BuildId.ofText id.toText = .ok id := by
  have hsome : (id.toText).isEmpty = false := by
    rw [Bool.eq_false_iff]
    intro hempty
    have hlength := id.length_toChars
    rw [String.isEmpty_iff, Uuid.toText] at hempty
    have hnil := congrArg String.toList hempty
    simp only [String.toList_ofList] at hnil
    rw [hnil] at hlength
    cases hlength
  have htrim : Text.trim id.toText = id.toText := Text.trim_of_plain id.plain_toChars
  simp only [BuildId.ofText, htrim, hsome, Uuid.ofText?_toText]
  rfl

end BuildBroker
