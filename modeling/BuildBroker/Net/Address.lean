import BuildBroker.Text.Natural

/-!
# Network Addresses

IPv4 and IPv6 addresses, socket addresses, and their text forms. Reading an IPv4 address takes
exactly four decimal numbers without leading zeros; an IPv6 address may end in an IPv4 address and
may leave out one run of zero groups. Writing leaves out the first longest run of at least two.
-/

namespace BuildBroker.Net

/-- A 32-bit address. -/
structure Ipv4 where
  bits : BitVec 32
deriving DecidableEq, Repr

/-- A 128-bit address. -/
structure Ipv6 where
  bits : BitVec 128
deriving DecidableEq, Repr

namespace Ipv4

/-- The four octets of the address. -/
def octets (a : Ipv4) : List Nat :=
  Text.fixedDigits 256 4 a.bits.toNat

/-- The address of four octets. -/
def ofOctets (os : List Nat) : Ipv4 :=
  ⟨BitVec.ofNat 32 (Text.ofDigits 256 os)⟩

/-- The written form of the address. -/
def toText (a : Ipv4) : String :=
  ".".intercalate (a.octets.map toString)

/-- Whether the address names this host. -/
def isLoopback (a : Ipv4) : Bool :=
  a.octets.head? = some 127

/-- Whether the address names no host. -/
def isUnspecified (a : Ipv4) : Bool :=
  a.bits = 0

/-- Reads one octet: at most three digits, no leading zero, at most 255. -/
def octet? (cs : List Char) : Option (Nat × List Char) :=
  let ds := (cs.takeWhile Text.isDigit).take 4
  if ds.length ≤ 3 ∧ (ds.head? ≠ some '0' ∨ ds.length = 1) then do
    let n ← Text.readDigits? 10 ds
    if n ≤ 255 then some (n, cs.drop ds.length) else none
  else none

/-- Reads the four octets that the text begins with. -/
def octets? (left : Nat) (cs : List Char) : Option (List Nat × List Char) :=
  match left with
  | 0 => some ([], cs)
  | left + 1 => do
    let (n, rest) ← octet? cs
    match left, rest with
    | 0, rest => some ([n], rest)
    | _, '.' :: rest =>
      let (ns, rest) ← octets? left rest
      some (n :: ns, rest)
    | _, _ => none

/-- Reads the address that the text begins with. -/
def read? (cs : List Char) : Option (Ipv4 × List Char) :=
  (octets? 4 cs).map fun (ns, rest) => (ofOctets ns, rest)

/-- Reads an address and nothing else. -/
def ofChars? (cs : List Char) : Option Ipv4 :=
  match read? cs with
  | some (a, []) => some a
  | _ => none

end Ipv4

namespace Ipv6

/-- The eight 16-bit groups of the address. -/
def groups (a : Ipv6) : List Nat :=
  Text.fixedDigits 65536 8 a.bits.toNat

/-- The address of eight groups. -/
def ofGroups (gs : List Nat) : Ipv6 :=
  ⟨BitVec.ofNat 128 (Text.ofDigits 65536 gs)⟩

/-- Whether the address names this host. -/
def isLoopback (a : Ipv6) : Bool :=
  a.bits = 1

/-- Whether the address names no host. -/
def isUnspecified (a : Ipv6) : Bool :=
  a.bits = 0

/-! ## Writing -/

/-- A run of zero groups: where it starts and how long it is. -/
structure Run where
  start : Nat
  length : Nat

/-- The first longest run of zero groups; `i` is the position of the next group, `current` the run
that ends before it. -/
def longestRun (i : Nat) (current best : Run) : List Nat → Run
  | [] => best
  | g :: gs =>
    if g = 0 then
      let current := ⟨if current.length = 0 then i else current.start, current.length + 1⟩
      longestRun (i + 1) current (if best.length < current.length then current else best) gs
    else longestRun (i + 1) ⟨0, 0⟩ best gs

/-- A group in hexadecimal without leading zeros. -/
def renderGroup (g : Nat) : String :=
  String.ofList (Nat.toDigits 16 g)

/-- The groups in hexadecimal, with the first longest run of at least two zeros left out. -/
def renderGroups (gs : List Nat) : String :=
  let run := longestRun 0 ⟨0, 0⟩ ⟨0, 0⟩ gs
  if 2 ≤ run.length then
    ":".intercalate ((gs.take run.start).map renderGroup) ++ "::"
      ++ ":".intercalate ((gs.drop (run.start + run.length)).map renderGroup)
  else ":".intercalate (gs.map renderGroup)

/-- The IPv4 address that is embedded as `::ffff:a.b.c.d`. -/
def mapped? (a : Ipv6) : Option Ipv4 :=
  if a.bits.toNat / Nat.pow 2 32 = 0xFFFF then some ⟨a.bits.truncate 32⟩ else none

/-- The written form of the address; an embedded IPv4 address keeps its own form. -/
def toText (a : Ipv6) : String :=
  match a.mapped? with
  | some v4 => "::ffff:" ++ v4.toText
  | none => renderGroups a.groups

/-! ## Reading -/

/-- Reads one group: one to four digits. -/
def group? (cs : List Char) : Option (Nat × List Char) :=
  let ds := (cs.takeWhile Text.isHexDigit).take 4
  (Text.readDigits? 16 ds).map fun n => (n, cs.drop ds.length)

/-- After a colon, unless this is the first group. -/
def afterColon? (first : Bool) (cs : List Char) : Option (List Char) :=
  if first then some cs
  else match cs with
    | ':' :: rest => some rest
    | _ => none

/-- Reads groups as long as there are any, at most `room` of them; also whether they end in an IPv4
address, which takes the room of two groups. -/
def readGroups (first : Bool) (room : Nat) (cs : List Char) : List Nat × Bool × List Char :=
  match room with
  | 0 => ([], false, cs)
  | room + 1 =>
    let embedded :=
      if room = 0 then none
      else do
        let rest ← afterColon? first cs
        Ipv4.read? rest
    match embedded with
    | some (v4, rest) => (Text.fixedDigits 65536 2 v4.bits.toNat, true, rest)
    | none =>
      match (afterColon? first cs).bind group? with
      | some (g, rest) =>
        let (gs, v4, rest) := readGroups false room rest
        (g :: gs, v4, rest)
      | none => ([], false, cs)

/-- Reads the address that the text begins with. The mark `::` stands for at least one group. -/
def read? (cs : List Char) : Option (Ipv6 × List Char) :=
  let (head, headV4, rest) := readGroups true 8 cs
  if head.length = 8 then some (ofGroups head, rest)
  else if headV4 then none
  else match rest with
    | ':' :: ':' :: rest =>
      let (tail, _, rest) := readGroups true (8 - (head.length + 1)) rest
      let zeros := List.replicate (8 - head.length - tail.length) 0
      some (ofGroups (head ++ zeros ++ tail), rest)
    | _ => none

/-- Reads an address and nothing else. -/
def ofChars? (cs : List Char) : Option Ipv6 :=
  match read? cs with
  | some (a, []) => some a
  | _ => none

end Ipv6

/-- An address of either kind. -/
inductive Ip where
  | v4 (a : Ipv4)
  | v6 (a : Ipv6)
deriving DecidableEq, Repr

namespace Ip

/-- Reads an address of either kind. -/
def ofChars? (cs : List Char) : Option Ip :=
  match Ipv4.ofChars? cs with
  | some a => some (.v4 a)
  | none => (Ipv6.ofChars? cs).map .v6

/-- Whether the address names this host. -/
def isLoopback : Ip → Bool
  | v4 a => a.isLoopback
  | v6 a => a.isLoopback

/-- Whether the address names no host. -/
def isUnspecified : Ip → Bool
  | v4 a => a.isUnspecified
  | v6 a => a.isUnspecified

end Ip

/-- The first value that is no port. -/
def portLimit : Nat := 65536

/-- An address with a port; an IPv6 address may carry the number of its scope. -/
structure SocketAddress where
  ip : Ip
  scope : Nat
  port : Nat
deriving DecidableEq, Repr

namespace SocketAddress

/-- Reads `:port` and nothing else; the port may have leading zeros. -/
def port? : List Char → Option Nat
  | ':' :: ds => do
    let n ← if ds.all Text.isDigit then Text.readDigits? 10 ds else none
    if n < portLimit then some n else none
  | _ => none

/-- Reads `%scope`, if it is there. -/
def scope? : List Char → Option (Nat × List Char)
  | '%' :: rest => do
    let ds := rest.takeWhile Text.isDigit
    let n ← Text.readDigits? 10 ds
    if n < Nat.pow 2 32 then some (n, rest.drop ds.length) else none
  | cs => some (0, cs)

/-- Reads `a.b.c.d:port` or `[ipv6%scope]:port`. -/
def ofChars? (cs : List Char) : Option SocketAddress :=
  match cs with
  | '[' :: rest => do
    let (a, rest) ← Ipv6.read? rest
    let (scope, rest) ← scope? rest
    match rest with
    | ']' :: rest => (port? rest).map fun p => ⟨.v6 a, scope, p⟩
    | _ => none
  | _ => do
    let (a, rest) ← Ipv4.read? cs
    (port? rest).map fun p => ⟨.v4 a, 0, p⟩

/-- Reads a socket address. -/
def ofText? (s : String) : Option SocketAddress :=
  ofChars? s.toList

/-- The written form of the address. -/
def toText (a : SocketAddress) : String :=
  match a.ip with
  | .v4 ip => ip.toText ++ ":" ++ toString a.port
  | .v6 ip =>
    let scope := if a.scope = 0 then "" else "%" ++ toString a.scope
    "[" ++ ip.toText ++ scope ++ "]:" ++ toString a.port

end SocketAddress

end BuildBroker.Net
