import BuildBroker.Text.Bytes

/-!
# The SHA-1 Digest

A digest of 160 bits. It is of no use against forgery; here it only proves that the other end of a
connection has read a key.
-/

namespace BuildBroker.Sha1

/-- The octets with a mark after them, filled up to whole blocks; a block ends in their number of
bits. -/
def padded (b : Bytes) : Bytes :=
  b ++ 0x80 :: List.replicate ((119 - b.length % 64) % 64) 0 ++ Bytes.ofNumber 8 (8 * b.length)

/-- The words of the octets. -/
def words : Bytes → List UInt32
  | a :: b :: c :: d :: rest =>
    (a.toUInt32 <<< 24 ||| b.toUInt32 <<< 16 ||| c.toUInt32 <<< 8 ||| d.toUInt32) :: words rest
  | _ => []

/-- Turns a word to the left. -/
def rotate (x n : UInt32) : UInt32 :=
  x <<< n ||| x >>> (32 - n)

/-- The state between blocks. -/
structure State where
  a : UInt32
  b : UInt32
  c : UInt32
  d : UInt32
  e : UInt32
deriving DecidableEq, Repr

/-- The state before the first block. -/
def State.start : State :=
  ⟨0x67452301, 0xEFCDAB89, 0x98BADCFE, 0x10325476, 0xC3D2E1F0⟩

/-- Adds two states word by word. -/
def State.add (s t : State) : State :=
  ⟨s.a + t.a, s.b + t.b, s.c + t.c, s.d + t.d, s.e + t.e⟩

/-- How round `t` mixes three words, and the constant that it adds. -/
def mix (t : Nat) (b c d : UInt32) : UInt32 × UInt32 :=
  if t < 20 then ((b &&& c) ||| (~~~b &&& d), 0x5A827999)
  else if t < 40 then (b ^^^ c ^^^ d, 0x6ED9EBA1)
  else if t < 60 then ((b &&& c) ||| (b &&& d) ||| (c &&& d), 0x8F1BBCDC)
  else (b ^^^ c ^^^ d, 0xCA62C1D6)

/-- Round `t` with its word. -/
def round (s : State) (t : Nat) (w : UInt32) : State :=
  let (f, k) := mix t s.b s.c s.d
  ⟨rotate s.a 5 + f + s.e + k + w, s.a, rotate s.b 30, s.c, s.d⟩

/-- The next word of the schedule; the words before it are given with the newest first. -/
def nextWord (before : List UInt32) : UInt32 :=
  let at_ (i : Nat) : UInt32 := before.getD (i - 1) 0
  rotate (at_ 3 ^^^ at_ 8 ^^^ at_ 14 ^^^ at_ 16) 1

/-- The words of a block, continued by `n` further ones; they are given with the newest first. -/
def schedule (before : List UInt32) : (n : Nat) → List UInt32
  | 0 => before.reverse
  | n + 1 => schedule (nextWord before :: before) n

/-- Takes a block into the state. -/
def block (s : State) (ws : List UInt32) : State :=
  let rounds := (schedule ws.reverse 64).zipIdx
  s.add (rounds.foldl (fun s (w, t) => round s t w) s)

/-- Takes `n` blocks into the state. -/
def blocks (s : State) (ws : List UInt32) : (n : Nat) → State
  | 0 => s
  | n + 1 => blocks (block s (ws.take 16)) (ws.drop 16) n

/-- The digest of octets. -/
def digest (b : Bytes) : Bytes :=
  let p := padded b
  let s := blocks .start (words p) (p.length / 64)
  [s.a, s.b, s.c, s.d, s.e].flatMap fun w => Bytes.ofNumber 4 w.toNat

end BuildBroker.Sha1
