import BuildBroker.Proofs.Text.Written

/-!
# Text and Its Octets

Every text is read back from its octets, whatever its characters are: the form of a character in
octets begins with an octet that tells how many follow, and the bits of all of them make up the
character.

Main statements:
- `Bytes.firstChar?_encode`: a character is read back from the octets it is written as.
- `Bytes.symbols_ofChars`: the octets of a text are read as its characters.
- `Bytes.toText?_ofText`: a text is read back from its octets.
-/

namespace BuildBroker.Bytes

/-! ## §1 One Character -/

/-- An octet that carries six bits after the first octet of a character. -/
theorem trailing_spec : ∀ n < 64,
    isTrailing (UInt8.ofNat (n + 128)) = true ∧ trailingBits (UInt8.ofNat (n + 128)) = n := by
  decide

/-- An octet is the number that it is written for. -/
theorem toNat_ofNat {n : Nat} (h : n < 256) : (UInt8.ofNat n).toNat = n := by
  rw [UInt8.toNat_ofNat', Nat.mod_eq_of_lt h]

/-- An octet lies in a range if its number does. -/
theorem inRange_ofNat {n : Nat} (h : n < 256) (low high : UInt8) :
    (low ≤ UInt8.ofNat n && UInt8.ofNat n ≤ high) = decide (low.toNat ≤ n ∧ n ≤ high.toNat) := by
  simp only [UInt8.le_iff_toNat_le, toNat_ofNat h, Bool.decide_and]

/-- An octet below a bound is one whose number is. -/
theorem ofNat_lt {n : Nat} (h : n < 256) (bound : UInt8) :
    UInt8.ofNat n < bound ↔ n < bound.toNat := by
  rw [UInt8.lt_iff_toNat_lt, toNat_ofNat h]

/-- The code of a character is no half of a surrogate pair and not too large. -/
theorem code_valid (c : Char) : c.toNat < 0xD800 ∨ 0xDFFF < c.toNat ∧ c.toNat < 0x110000 :=
  c.valid

/-- A character of one octet. -/
theorem firstChar?_one {n : Nat} (h : n ≤ 0x7F) (rest : Bytes) :
    firstChar? (UInt8.ofNat n) rest = some (Char.ofNat n, 0) := by
  have hsmall : UInt8.ofNat n < 0x80 := (ofNat_lt (by omega) _).mpr (Nat.lt_succ_of_le h)
  simp only [firstChar?, if_pos hsmall, toNat_ofNat (n := n) (by omega)]

/-- A character of two octets. -/
theorem firstChar?_two {n : Nat} (hlow : 0x7F < n) (hhigh : n ≤ 0x7FF) (rest : Bytes) :
    firstChar? (UInt8.ofNat (n / 64 % 32 + 192)) (UInt8.ofNat (n % 64 + 128) :: rest) =
      some (Char.ofNat n, 1) := by
  have hoctet : n / 64 % 32 + 192 < 256 := by omega
  obtain ⟨ht, hb⟩ := trailing_spec (n % 64) (Nat.mod_lt n (by decide))
  have hone : ¬ n / 64 % 32 + 192 < (0x80 : UInt8).toNat := by simp
  have htwo : (0xC2 : UInt8).toNat ≤ n / 64 % 32 + 192 ∧
      n / 64 % 32 + 192 ≤ (0xDF : UInt8).toNat := by simp; omega
  have hcode : (n / 64 % 32 + 192) % 32 * 64 + n % 64 = n := by omega
  simp only [firstChar?, ofNat_lt hoctet, if_neg hone, inRange_ofNat hoctet, decide_eq_true htwo,
    ht, twoOctets, toNat_ofNat hoctet, hb, hcode, if_true]

/-- A character of three octets. -/
theorem firstChar?_three {n : Nat} (hlow : 0x7FF < n) (hhigh : n ≤ 0xFFFF)
    (hvalid : n < 0xD800 ∨ 0xDFFF < n) (rest : Bytes) :
    firstChar? (UInt8.ofNat (n / 4096 % 16 + 224)) (UInt8.ofNat (n / 64 % 64 + 128) ::
      UInt8.ofNat (n % 64 + 128) :: rest) = some (Char.ofNat n, 2) := by
  have hoctet : n / 4096 % 16 + 224 < 256 := by omega
  obtain ⟨ht₁, hb₁⟩ := trailing_spec (n / 64 % 64) (Nat.mod_lt _ (by decide))
  obtain ⟨ht₂, hb₂⟩ := trailing_spec (n % 64) (Nat.mod_lt n (by decide))
  have hone : ¬ n / 4096 % 16 + 224 < (0x80 : UInt8).toNat := by simp
  have htwo : ¬ ((0xC2 : UInt8).toNat ≤ n / 4096 % 16 + 224 ∧
      n / 4096 % 16 + 224 ≤ (0xDF : UInt8).toNat) := by simp
  have hthree : (0xE0 : UInt8).toNat ≤ n / 4096 % 16 + 224 ∧
      n / 4096 % 16 + 224 ≤ (0xEF : UInt8).toNat := by simp; omega
  have hcode : (n / 4096 % 16 + 224) % 16 * 4096 + n / 64 % 64 * 64 + n % 64 = n := by omega
  have hkept : (0x800 ≤ n && !(0xD800 ≤ n && n ≤ 0xDFFF)) = true := by
    simp only [Bool.and_eq_true, Bool.not_eq_true', Bool.and_eq_false_iff, decide_eq_true_eq,
      decide_eq_false_iff_not]
    omega
  simp only [firstChar?, ofNat_lt hoctet, if_neg hone, inRange_ofNat hoctet, decide_eq_false htwo,
    decide_eq_true hthree, threeOctets?, toNat_ofNat hoctet, hb₁, hb₂, hcode, ht₁, ht₂,
    Bool.true_and, hkept, if_true, Option.map_some, Bool.false_eq_true, if_false]

/-- A character of four octets. -/
theorem firstChar?_four {n : Nat} (hlow : 0xFFFF < n) (hhigh : n ≤ 0x10FFFF) (rest : Bytes) :
    firstChar? (UInt8.ofNat (n / 262144 % 8 + 240)) (UInt8.ofNat (n / 4096 % 64 + 128) ::
      UInt8.ofNat (n / 64 % 64 + 128) :: UInt8.ofNat (n % 64 + 128) :: rest) =
      some (Char.ofNat n, 3) := by
  have hoctet : n / 262144 % 8 + 240 < 256 := by omega
  obtain ⟨ht₁, hb₁⟩ := trailing_spec (n / 4096 % 64) (Nat.mod_lt _ (by decide))
  obtain ⟨ht₂, hb₂⟩ := trailing_spec (n / 64 % 64) (Nat.mod_lt _ (by decide))
  obtain ⟨ht₃, hb₃⟩ := trailing_spec (n % 64) (Nat.mod_lt n (by decide))
  -- the leading octet is of none of the shorter forms
  have hone : ¬ n / 262144 % 8 + 240 < (0x80 : UInt8).toNat := by simp
  have htwo : ¬ ((0xC2 : UInt8).toNat ≤ n / 262144 % 8 + 240 ∧
      n / 262144 % 8 + 240 ≤ (0xDF : UInt8).toNat) := by simp
  have hthree : ¬ ((0xE0 : UInt8).toNat ≤ n / 262144 % 8 + 240 ∧
      n / 262144 % 8 + 240 ≤ (0xEF : UInt8).toNat) := by simp
  have hfour : (0xF0 : UInt8).toNat ≤ n / 262144 % 8 + 240 ∧
      n / 262144 % 8 + 240 ≤ (0xF4 : UInt8).toNat := by simp; omega
  have hcode : (n / 262144 % 8 + 240) % 8 * 262144 + n / 4096 % 64 * 4096 + n / 64 % 64 * 64 +
      n % 64 = n := by omega
  have hkept : (0x10000 ≤ n && n ≤ 0x10FFFF) = true := by
    simp only [Bool.and_eq_true, decide_eq_true_eq]
    omega
  simp only [firstChar?, ofNat_lt hoctet, if_neg hone, inRange_ofNat hoctet, decide_eq_false htwo,
    decide_eq_false hthree, decide_eq_true hfour, fourOctets?, toNat_ofNat hoctet, hb₁, hb₂, hb₃,
    hcode, ht₁, ht₂, ht₃, Bool.true_and, hkept, if_true, Option.map_some, Bool.false_eq_true,
    if_false]

/-- A character is read back from the octets it is written as, whatever follows them. -/
theorem firstChar?_encode (c : Char) (rest : Bytes) :
    ∃ a tail, String.utf8EncodeChar c = a :: tail ∧
      firstChar? a (tail ++ rest) = some (c, tail.length) := by
  have hcode : Char.ofNat c.val.toNat = c := Char.ofNat_toNat c
  have hvalid : c.val.toNat < 0xD800 ∨ 0xDFFF < c.val.toNat ∧ c.val.toNat < 0x110000 :=
    code_valid c
  unfold String.utf8EncodeChar
  generalize c.val.toNat = n at hcode hvalid
  subst hcode
  -- the number of octets follows from the code
  by_cases hone : n ≤ 127
  · exact ⟨_, _, if_pos hone, firstChar?_one hone rest⟩
  · simp only [if_neg hone]
    by_cases htwo : n ≤ 2047
    · exact ⟨_, _, if_pos htwo, firstChar?_two (by omega) htwo rest⟩
    · simp only [if_neg htwo]
      by_cases hthree : n ≤ 65535
      · exact ⟨_, _, if_pos hthree, firstChar?_three (by omega) hthree (by omega) rest⟩
      · exact ⟨_, _, if_neg hthree, firstChar?_four (by omega) (by omega) rest⟩

/-! ## §2 Texts -/

/-- The octets that belong to a character that has been read are stepped over. -/
theorem symbolsFrom_append (read : List (Option Char)) (tail rest : Bytes) :
    symbolsFrom read tail.length (tail ++ rest) = symbolsFrom read 0 rest := by
  induction tail with
  | nil => rfl
  | cons b tail ih => simpa [symbolsFrom] using ih

/-- The octets of a text are read as its characters. -/
theorem symbols_ofChars (cs : List Char) : (ofChars cs).symbols = cs.map some := by
  -- what has been read so far is kept in reverse, and stands before the rest
  have hfrom : ∀ read : List (Option Char), symbolsFrom read 0 (ofChars cs) =
      read.reverse ++ cs.map some := by
    induction cs with
    | nil =>
      intro read
      simp [ofChars, symbolsFrom]
    | cons c cs ih =>
      intro read
      obtain ⟨a, tail, hoctets, hfirst⟩ := firstChar?_encode c (ofChars cs)
      have hbytes : ofChars (c :: cs) = a :: (tail ++ ofChars cs) := by
        rw [ofChars, List.flatMap_cons, hoctets]
        rfl
      rw [hbytes]
      simp only [symbolsFrom, hfirst, symbolsFrom_append, ih]
      simp
  exact hfrom []

/-- A text of ASCII has one octet for each character. -/
theorem ofChars_of_ascii {cs : List Char} (h : ∀ c ∈ cs, c.toNat < 0x80) :
    ofChars cs = cs.map fun c => UInt8.ofNat c.toNat := by
  induction cs with
  | nil => rfl
  | cons c cs ih =>
    have hc : c.val.toNat ≤ 127 := Nat.le_of_lt_succ (h c List.mem_cons_self)
    have hoctet : String.utf8EncodeChar c = [UInt8.ofNat c.toNat] := if_pos hc
    rw [List.map_cons, ← ih fun x hx => h x (List.mem_cons_of_mem _ hx), ofChars, List.flatMap_cons,
      hoctet]
    rfl

/-- A text is read back from its octets. -/
theorem toText?_ofText (s : String) : (ofText s).toText? = some s := by
  rw [toText?, ofText, symbols_ofChars, allChars?_map_some, Option.map_some]
  simp

end BuildBroker.Bytes
