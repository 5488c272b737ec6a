import BuildBroker.Text.Natural

/-!
# Unique Identifiers

A 128-bit identifier with its text forms. The written form is hyphenated and in lower case; reading
also accepts the bare digits, the hyphenated form in braces and the `urn:uuid:` form, and digits in
either case.
-/

namespace BuildBroker

/-- A 128-bit identifier. -/
structure Uuid where
  bits : BitVec 128
deriving DecidableEq, Repr

namespace Uuid

/-- The identifier of a random number; six bits are not random but tell that the others are. -/
def ofRandom (n : Nat) : Uuid :=
  let random := BitVec.ofNat 128 n
  let kept : BitVec 128 := 0xffffffffffff0fff3fffffffffffffff
  ⟨random &&& kept ||| 0x00000000000040008000000000000000⟩

/-- Puts hyphens after the groups of 8, 4, 4 and 4 digits. -/
def hyphenate (ds : List Char) : List Char :=
  ds.take 8 ++ '-' :: (ds.drop 8).take 4 ++ '-' :: (ds.drop 12).take 4
    ++ '-' :: (ds.drop 16).take 4 ++ '-' :: ds.drop 20

/-- The 32 digits of the identifier. -/
def digits (u : Uuid) : List Char :=
  Text.fixedHex 32 u.bits.toNat

/-- The written form of the identifier. -/
def toChars (u : Uuid) : List Char :=
  hyphenate u.digits

/-- The written form of the identifier. -/
def toText (u : Uuid) : String :=
  String.ofList u.toChars

instance : ToString Uuid := ⟨toText⟩

/-- Reads exactly 32 digits. -/
def ofDigits? (ds : List Char) : Option Uuid :=
  if ds.length = 32 then (Text.readDigits? 16 ds).map fun n => ⟨BitVec.ofNat 128 n⟩ else none

/-- Reads 32 digits with hyphens after the groups of 8, 4, 4 and 4. -/
def ofHyphenated? (cs : List Char) : Option Uuid :=
  let ds := cs.filter (· ≠ '-')
  if hyphenate ds = cs then ofDigits? ds else none

/-- The mark of the long form. -/
def urnMark : List Char := "urn:uuid:".toList

/-- Reads any of the text forms. -/
def ofChars? (cs : List Char) : Option Uuid :=
  if cs.length = 32 then ofDigits? cs
  else if cs.length = 36 then ofHyphenated? cs
  else if cs.length = 38 then
    match cs with
    | '\x7b' :: rest =>
      if rest.getLast? = some '\x7d' then ofHyphenated? rest.dropLast else none
    | _ => none
  else if cs.length = 45 then
    if (cs.take 9).map Char.toLower = urnMark then ofHyphenated? (cs.drop 9) else none
  else none

/-- Reads any of the text forms. -/
def ofText? (s : String) : Option Uuid :=
  ofChars? s.toList

end Uuid

end BuildBroker
