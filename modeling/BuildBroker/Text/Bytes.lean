import BuildBroker.Text.Natural

/-!
# Bytes and Text

The broker carries bytes and shows text. `Bytes` is a plain list; a text is written as its UTF-8
form, and read back only from a well-formed one.

`Bytes.symbols` reads octets as far as they are text and marks every octet that is not: a reader of
a text format can then step over a malformed place inside a part that it does not have to decode.
-/

namespace BuildBroker

/-- A sequence of octets, as it travels between the parties. -/
abbrev Bytes := List UInt8

namespace Bytes

/-- The UTF-8 form of a sequence of characters. -/
def ofChars (cs : List Char) : Bytes :=
  cs.flatMap String.utf8EncodeChar

/-- The UTF-8 form of a text. -/
def ofText (s : String) : Bytes :=
  ofChars s.toList

/-- Whether the octet continues a character that an earlier octet began. -/
def isTrailing (b : UInt8) : Bool :=
  0x80 ≤ b && b ≤ 0xBF

/-- The six bits that a trailing octet adds. -/
def trailingBits (b : UInt8) : Nat :=
  b.toNat % 64

/-- The character of a two-octet form. The first octet has been seen to lie in `C2 … DF`. -/
def twoOctets (a b : UInt8) : Char :=
  Char.ofNat (a.toNat % 32 * 64 + trailingBits b)

/-- The character of a three-octet form: no shorter form and no surrogate may hide in it. -/
def threeOctets? (a b c : UInt8) : Option Char :=
  let n := a.toNat % 16 * 4096 + trailingBits b * 64 + trailingBits c
  if isTrailing b && isTrailing c && 0x800 ≤ n && !(0xD800 ≤ n && n ≤ 0xDFFF) then
    some (Char.ofNat n)
  else none

/-- The character of a four-octet form: no shorter form, and nothing beyond the last character. -/
def fourOctets? (a b c d : UInt8) : Option Char :=
  let n := a.toNat % 8 * 262144 + trailingBits b * 4096 + trailingBits c * 64 + trailingBits d
  if isTrailing b && isTrailing c && isTrailing d && 0x10000 ≤ n && n ≤ 0x10FFFF then
    some (Char.ofNat n)
  else none

/-- The character that the octets begin with, with the number of octets after the first that belong
to it. -/
def firstChar? (a : UInt8) (rest : Bytes) : Option (Char × Nat) :=
  if a < 0x80 then some (Char.ofNat a.toNat, 0)
  else if 0xC2 ≤ a && a ≤ 0xDF then
    match rest with
    | b :: _ => if isTrailing b then some (twoOctets a b, 1) else none
    | _ => none
  else if 0xE0 ≤ a && a ≤ 0xEF then
    match rest with
    | b :: c :: _ => (threeOctets? a b c).map (·, 2)
    | _ => none
  else if 0xF0 ≤ a && a ≤ 0xF4 then
    match rest with
    | b :: c :: d :: _ => (fourOctets? a b c d).map (·, 3)
    | _ => none
  else none

/-- Reads on after `skip` more octets, with what was read so far in reverse. -/
def symbolsFrom (read : List (Option Char)) : (skip : Nat) → Bytes → List (Option Char)
  | _, [] => read.reverse
  | skip + 1, _ :: rest => symbolsFrom read skip rest
  | 0, a :: rest =>
    match firstChar? a rest with
    | some (c, skip) => symbolsFrom (some c :: read) skip rest
    | none => symbolsFrom (none :: read) 0 rest

/-- The characters that the octets are the UTF-8 form of; `none` stands for an octet that belongs to
no character. -/
def symbols (b : Bytes) : List (Option Char) :=
  symbolsFrom [] 0 b

/-- The characters among the symbols, if all are. -/
def allChars? (read : List Char) : List (Option Char) → Option (List Char)
  | [] => some read.reverse
  | some c :: rest => allChars? (c :: read) rest
  | none :: _ => none

/-- The text that the octets are the UTF-8 form of, if they are one. -/
def toText? (b : Bytes) : Option String :=
  (allChars? [] (symbols b)).map String.ofList

/-- Blank in the sense of ASCII: space, tab, line feed, carriage return and form feed. -/
def isAsciiBlank (b : UInt8) : Bool :=
  b == 0x20 || b == 0x09 || b == 0x0A || b == 0x0D || b == 0x0C

/-! ## Numbers -/

/-- A number as exactly `width` octets, the most significant first. -/
def ofNumber (width n : Nat) : Bytes :=
  (Text.fixedDigits 256 width n).map UInt8.ofNat

/-- The number that octets stand for, the most significant first. -/
def toNumber (b : Bytes) : Nat :=
  Text.ofDigits 256 (b.map (·.toNat))

end Bytes

end BuildBroker
