/-!
# Targets

What a request is directed at. It is written as a path with a query, as a whole address, as the name
of a party alone, or as an asterisk; only the path and the query count.
-/

namespace BuildBroker.Http

/-- What a request is directed at: a path and the text after its question mark. -/
structure Target where
  path : List Char
  query : Option (List Char)
deriving DecidableEq, Repr

/-- The longest text of a target, in octets. -/
def targetLimit : Nat := 65534

/-! ## Paths -/

/-- Whether a character may stand in the path of a target. -/
def isPathChar (c : Char) : Bool :=
  let n := c.toNat
  n = 0x21 || (0x24 ≤ n && n ≤ 0x3B) || n = 0x3D || (0x40 ≤ n && n ≤ 0x5F)
    || (0x61 ≤ n && n ≤ 0x7A) || n = 0x7C || n = 0x7E || 0x7F ≤ n || n = 0x22
    || n = 0x7B || n = 0x7D

/-- Whether a character may stand in the query of a target. -/
def isQueryChar (c : Char) : Bool :=
  let n := c.toNat
  n = 0x21 || (0x24 ≤ n && n ≤ 0x3B) || n = 0x3D || (0x3F ≤ n)

/-- Reads a path and a query; a fragment is dropped. -/
def Target.ofPath? (cs : List Char) : Option Target :=
  let cs := cs.takeWhile (· ≠ '#')
  let path := cs.takeWhile (· ≠ '?')
  let query := match cs.drop path.length with
    | _ :: q => some q
    | [] => none
  if path.all isPathChar && (query.getD []).all isQueryChar then some ⟨path, query⟩ else none

/-! ## Parties -/

/-- Whether a character may stand in the name of a party, percent signs apart. -/
def isPartyChar (c : Char) : Bool :=
  (c.isAlphanum && c.toNat < 0x80) || "!$&\x27()*+,-.:;=@[]_~".toList.contains c

/-- What has been seen of the name of a party. -/
structure PartyScan where
  /-- How many colons have come since the user information or the brackets ended. -/
  colons : Nat
  opened : Bool
  closed : Bool
  /-- Whether a percent sign has come since then. -/
  percent : Bool
  /-- Whether the last character ended the user information. -/
  atSign : Bool

/-- How many colons may stand together, those of an IPv6 address. -/
def colonLimit : Nat := 8

/-- Reads one character of the name of a party; `none` if it may not stand there. -/
def PartyScan.step? (s : PartyScan) (c : Char) : Option PartyScan :=
  let s := { s with atSign := c = '@' }
  if c = '%' then some { s with percent := true }
  else if !isPartyChar c then none
  else if c = ':' then
    if s.colons < colonLimit then some { s with colons := s.colons + 1 } else none
  else if c = '[' then
    if s.percent || s.opened then none else some { s with opened := true }
  else if c = ']' then
    if !s.opened || s.closed then none
    else some { s with closed := true, colons := 0, percent := false }
  else if c = '@' then some { s with colons := 0, percent := false }
  else some s

/-- Whether a text names a party: user information, a host that may stand in brackets, and a port,
of which only the host has to be there. -/
def isParty (cs : List Char) : Bool :=
  match cs.foldlM PartyScan.step? ⟨0, false, false, false, false⟩ with
  | some s => s.opened = s.closed && s.colons ≤ 1 && !s.atSign && !s.percent
  | none => false

/-! ## Addresses -/

/-- The longest scheme. -/
def schemeLimit : Nat := 64

/-- Whether a character may stand in a scheme. -/
def isSchemeChar (c : Char) : Bool :=
  (c.isAlphanum && c.toNat < 0x80) || c = '+' || c = '-' || c = '.' || c = '~'

/-- A text without the scheme that it begins with, and the length of the scheme; `none` if there is
no scheme. -/
def dropScheme? (cs : List Char) : Option (Nat × List Char) :=
  let scheme := cs.takeWhile isSchemeChar
  match cs.drop scheme.length with
  | ':' :: '/' :: '/' :: rest =>
    if scheme.isEmpty && rest.isEmpty then none else some (scheme.length, rest)
  | _ => none

/-- Reads a whole address: the party has to be named, and a path that is missing is the root. -/
def Target.ofAddress? (cs : List Char) : Option Target :=
  let party := cs.takeWhile fun c => c ≠ '/' && c ≠ '?' && c ≠ '#'
  if party.isEmpty || !isParty party then none
  else match cs.drop party.length with
    | '/' :: rest => Target.ofPath? ('/' :: rest)
    | rest => Target.ofPath? ('/' :: rest)

/-- Reads a target. A party alone has no path at all. -/
def Target.ofText? (s : String) : Option Target :=
  if targetLimit < s.utf8ByteSize then none
  else match s.toList with
    | [] => none
    | ['*'] => some ⟨['*'], none⟩
    | '/' :: rest => Target.ofPath? ('/' :: rest)
    | cs =>
      match dropScheme? cs with
      | some (n, rest) => if schemeLimit < n then none else Target.ofAddress? rest
      | none => if isParty cs then some ⟨[], none⟩ else none

end BuildBroker.Http
