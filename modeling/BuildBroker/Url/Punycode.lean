/-!
# Punycode

Labels of domain names with characters beyond ASCII, written in ASCII: first the ASCII characters,
then for each other character the distance to its place, in a notation of variable base.
-/

namespace BuildBroker.Punycode

/-- The number of digits. -/
def base : Nat := 36

/-- The first character that is not basic. -/
def firstExtended : Nat := 128

/-- The threshold of the digit at position `k`, under a bias. -/
def threshold (k bias : Nat) : Nat :=
  if k ≤ bias then 1 else if bias + 26 ≤ k then 26 else k - bias

/-- Divides by 35 until the number is small, counting in steps of the base. -/
def settle (fuel delta k : Nat) : Nat :=
  match fuel with
  | 0 => k
  | fuel + 1 =>
    if 455 < delta then settle fuel (delta / 35) (k + base)
    else k + 36 * delta / (delta + 38)

/-- The bias after a distance. -/
def adapt (delta count : Nat) (first : Bool) : Nat :=
  let delta := if first then delta / 700 else delta / 2
  let delta := delta + delta / count
  settle delta delta 0

/-- The character of a digit. -/
def digitChar (d : Nat) : Char :=
  Char.ofNat (if d < 26 then 'a'.toNat + d else '0'.toNat + (d - 26))

/-- The digit of a character. -/
def digitValue? (c : Char) : Option Nat :=
  if 'a' ≤ c ∧ c ≤ 'z' then some (c.toNat - 'a'.toNat)
  else if 'A' ≤ c ∧ c ≤ 'Z' then some (c.toNat - 'A'.toNat)
  else if '0' ≤ c ∧ c ≤ '9' then some (c.toNat - '0'.toNat + 26)
  else none

/-- The digits of a distance. -/
def writeDelta (fuel q k bias : Nat) : List Char :=
  match fuel with
  | 0 => []
  | fuel + 1 =>
    let t := threshold k bias
    if q < t then [digitChar q]
    else
      digitChar (t + (q - t) % (base - t))
        :: writeDelta fuel ((q - t) / (base - t)) (k + base) bias

/-- The state of writing a label. -/
structure Writer where
  delta : Nat
  bias : Nat
  handled : Nat
  output : List Char

/-- Goes over the label once for the character with code `n`. -/
def Writer.pass (basic n : Nat) (w : Writer) (label : List Char) : Writer :=
  label.foldl (fun w c =>
    if c.toNat < n then { w with delta := w.delta + 1 }
    else if c.toNat = n then
      { delta := 0
        bias := adapt w.delta (w.handled + 1) (w.handled = basic)
        handled := w.handled + 1
        output := w.output ++ writeDelta (w.delta + 1) w.delta base w.bias }
    else w) w

/-- Writes the characters from code `n` on; each turn writes at least one. -/
def writeFrom (fuel basic n : Nat) (w : Writer) (label : List Char) : List Char :=
  match fuel with
  | 0 => w.output
  | fuel + 1 =>
    match (label.map Char.toNat).filter (n ≤ ·) with
    | [] => w.output
    | m :: ms =>
      let next := ms.foldl min m
      let w := { w with delta := w.delta + (next - n) * (w.handled + 1) }
      let w := w.pass basic next label
      writeFrom fuel basic (next + 1) { w with delta := w.delta + 1 } label

/-- The ASCII form of a label. -/
def encode (label : List Char) : List Char :=
  let basic := label.filter (·.toNat < firstExtended)
  let start := if basic.isEmpty then [] else basic ++ ['-']
  writeFrom (label.length + 1) basic.length firstExtended ⟨0, 72, basic.length, start⟩ label

/-- Reads one distance, with the weight of its next digit. -/
def readDelta? (i weight k bias : Nat) : List Char → Option (Nat × List Char)
  | [] => none
  | c :: cs => do
    let d ← digitValue? c
    let t := threshold k bias
    let i := i + d * weight
    if Nat.pow 2 32 ≤ i then none
    else if d < t then some (i, cs)
    else readDelta? i (weight * (base - t)) (k + base) bias cs

/-- Puts the characters in their places; each turn reads at least one digit. -/
def readFrom? (fuel i n bias : Nat) (output : List Char) (cs : List Char) : Option (List Char) :=
  match fuel, cs with
  | _, [] => some output
  | 0, _ => none
  | fuel + 1, cs => do
    let (next, cs) ← readDelta? i 1 base bias cs
    let count := output.length + 1
    let n := n + next / count
    let at_ := next % count
    if 0x10FFFF < n || (0xD800 ≤ n && n ≤ 0xDFFF) then none
    else
      readFrom? fuel (at_ + 1) n (adapt (next - i) count (i = 0))
        (output.take at_ ++ Char.ofNat n :: output.drop at_) cs

/-- The label that an ASCII form stands for. -/
def decode? (cs : List Char) : Option (List Char) :=
  let tail := (cs.reverse.takeWhile (· ≠ '-')).reverse
  let basic := (cs.take (cs.length - tail.length)).dropLast
  if basic.all (·.toNat < firstExtended) then
    readFrom? (tail.length + 1) 0 firstExtended 72 basic tail
  else none

end BuildBroker.Punycode
