import BuildBroker.Url.Basic
import BuildBroker.Url.Folding
import BuildBroker.Url.Percent
import BuildBroker.Url.Punycode

/-!
# Hosts in Text

How the host of a URL is read. A special scheme names a domain or an address: escapes are undone,
letters become lower case, labels beyond ASCII are written in ASCII, and a name whose last label is
a number is an IPv4 address in one to four parts, each decimal, octal or hexadecimal. Any other
scheme keeps its host as it is, but for octets that have to be encoded.

Of a label beyond ASCII each character is looked at, as far as `foldChar` has a normal form of it,
but not the label as a whole: it may begin with a mark and mix directions of writing, and it may not
hold a joiner wherever that stands.
-/

namespace BuildBroker.Host

/-! ## Names -/

/-- The characters that a name must not contain. -/
def isForbiddenInDomain (c : Char) : Bool :=
  c.toNat ≤ 0x20 || c.toNat = 0x7F || "%#/:<>?@[\\]^|".toList.contains c

/-- The characters that a kept host must not contain. -/
def isForbiddenInPlain (c : Char) : Bool :=
  "\x00\t\n\r #/:<>?@[\\]^|".toList.contains c

/-- The mark of a label that is written in ASCII. -/
def asciiMark : List Char := "xn--".toList

/-- Whether a label holds something beyond ASCII, and only characters that a name may hold. -/
def isExtendedLabel (label : List Char) : Bool :=
  label.any (Punycode.firstExtended ≤ ·.toNat) && label.all (!isRefused ·)

/-- The ASCII form of a label. A label that claims to be one already has to stand for something
beyond ASCII, in its normal form. -/
def asciiLabel? (label : List Char) : Option (List Char) :=
  if label.all (·.toNat < Punycode.firstExtended) then
    if label.take 4 = asciiMark then
      match Punycode.decode? (label.drop 4) with
      | some cs => if isExtendedLabel cs && cs.flatMap foldChar = cs then some label else none
      | none => none
    else some label
  else if isExtendedLabel label then some (asciiMark ++ Punycode.encode label)
  else none

/-- The parts of a text between the occurrences of a character. -/
def splitOn (mark : Char) (cs : List Char) : List (List Char) :=
  cs.foldr (fun c parts =>
    if c = mark then [] :: parts
    else match parts with
      | p :: ps => (c :: p) :: ps
      | [] => [[c]]) [[]]

/-- The parts with a character between them. -/
def joinWith (mark : Char) : List (List Char) → List Char
  | [] => []
  | [p] => p
  | p :: ps => p ++ mark :: joinWith mark ps

/-- The normal form of a name, in ASCII. -/
def asciiDomain? (cs : List Char) : Option (List Char) := do
  let labels ← (splitOn '.' (cs.flatMap foldChar)).mapM asciiLabel?
  let name := joinWith '.' labels
  if name.any isForbiddenInDomain then none else some name

/-! ## Numbers -/

/-- A part of an IPv4 address: the outer `none` is no number. -/
def numberPart? (cs : List Char) : Option Nat :=
  match cs with
  | [] => none
  | '0' :: 'x' :: ds => if ds.isEmpty then some 0 else Text.readDigits? 16 ds
  | '0' :: d :: ds => Text.readDigits? 8 (d :: ds)
  | ds => Text.readDigits? 10 ds

/-- The last label of a name that may end in a full stop. -/
def lastLabel? (labels : List (List Char)) : Option (List Char) :=
  match labels.reverse with
  | [] :: l :: _ => some l
  | [] :: [] => none
  | l :: _ => some l
  | [] => none

/-- Whether the name has to be an IPv4 address: its last label is a number. -/
def endsInNumber (name : List Char) : Bool :=
  match lastLabel? (splitOn '.' name) with
  | none => false
  | some l => (!l.isEmpty && l.all Text.isDigit) || (numberPart? l).isSome

/-- The address of one to four numbers: the last one fills the octets that are left. -/
def ofNumbers? (ns : List Nat) : Option Net.Ipv4 :=
  match ns.reverse with
  | [] => none
  | last :: front =>
    let given := front.length
    if 4 ≤ given || front.any (255 < ·) || Nat.pow 256 (4 - given) ≤ last then none
    else
      some ⟨BitVec.ofNat 32 (Text.ofDigits 256 front.reverse * Nat.pow 256 (4 - given) + last)⟩

/-- Reads a name as an IPv4 address; one full stop at the end does not count. -/
def ipv4? (name : List Char) : Option Net.Ipv4 := do
  let labels := splitOn '.' name
  let labels := if labels.getLast? = some [] then labels.dropLast else labels
  let ns ← labels.mapM numberPart?
  ofNumbers? ns

/-! ## Hosts -/

/-- Reads an address between brackets. -/
def ofBracketed (cs : List Char) : Except UrlError Host :=
  if cs.getLast? = some ']' then
    match Net.Ipv6.ofChars? cs.dropLast with
    | some a => .ok (.ipv6 a)
    | none => .error .invalidIpv6
  else .error .invalidIpv6

/-- Reads the host of a special scheme. -/
def ofSpecial (cs : List Char) : Except UrlError Host :=
  match cs with
  | '[' :: rest => ofBracketed rest
  | _ =>
    match (Percent.decode (Bytes.ofChars cs)).toText? with
    | none => .error .invalidDomain
    | some s =>
      match asciiDomain? s.toList with
      | none => .error .invalidDomain
      | some [] => .error .emptyHost
      | some name =>
        if endsInNumber name then
          match ipv4? name with
          | some a => .ok (.ipv4 a)
          | none => .error .invalidIpv4
        else .ok (.domain (String.ofList name))

/-- Reads the host of any other scheme. -/
def ofPlain (cs : List Char) : Except UrlError Host :=
  match cs with
  | '[' :: rest => ofBracketed rest
  | _ =>
    if cs.any isForbiddenInPlain then .error .forbiddenCharacter
    else .ok (.domain (String.ofList (Percent.encode Percent.inPlain cs)))

end BuildBroker.Host
