import BuildBroker.Text.Natural
import BuildBroker.Text.Bytes

/-!
# Percent Encoding

Octets written as a percent sign and two digits. Each part of a URL has its own set of characters
that are written so; characters beyond ASCII and control characters always are.
-/

namespace BuildBroker.Percent

/-- An octet as a percent sign and two upper-case digits. -/
def encodeByte (b : UInt8) : List Char :=
  '%' :: (Text.fixedHex 2 b.toNat).map Char.toUpper

/-- Whether the character is a control character or lies beyond ASCII. -/
def isControl (c : Char) : Bool :=
  c.toNat < 0x20 || 0x7E < c.toNat

/-- Encodes the characters of a set, and those that are always encoded. -/
def encode (set : Char → Bool) (cs : List Char) : List Char :=
  cs.flatMap fun c =>
    if isControl c || set c then (String.utf8EncodeChar c).flatMap encodeByte else [c]

/-- What is encoded in a part that is kept as it is. -/
def inPlain (_ : Char) : Bool := false

/-- What is encoded in a fragment. -/
def inFragment (c : Char) : Bool :=
  c = ' ' || c = '\x22' || c = '<' || c = '>' || c = '\x60'

/-- What is encoded in a query. -/
def inQuery (c : Char) : Bool :=
  c = ' ' || c = '\x22' || c = '#' || c = '<' || c = '>'

/-- What is encoded in the query of a special scheme. -/
def inSpecialQuery (c : Char) : Bool :=
  inQuery c || c = '\x27'

/-- What is encoded in a path. -/
def inPath (c : Char) : Bool :=
  inQuery c || c = '?' || c = '\x60' || c = '\x7b' || c = '\x7d'

/-- What is encoded in user information. -/
def inUser (c : Char) : Bool :=
  inPath c || c = '/' || c = ':' || c = ';' || c = '=' || c = '@' || c = '[' || c = '\\'
    || c = ']' || c = '^' || c = '|'

/-- Puts octets in the place of their encoded forms; a percent sign without two digits after it
stays. -/
def decode : Bytes → Bytes
  | 0x25 :: a :: b :: rest =>
    match Text.readDigits? 16 [Char.ofNat a.toNat, Char.ofNat b.toNat] with
    | some n => UInt8.ofNat n :: decode rest
    | none => 0x25 :: decode (a :: b :: rest)
  | b :: rest => b :: decode rest
  | [] => []

end BuildBroker.Percent
