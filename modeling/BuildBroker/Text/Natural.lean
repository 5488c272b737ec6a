/-!
# Natural Numbers in Text

Reading and writing natural numbers in a positional notation, and the bounded decimal numbers that
settings are written in.
-/

namespace BuildBroker.Text

/-- The value of a digit in any base up to sixteen, in either case. -/
def digitValue? (c : Char) : Option Nat :=
  if '0' ≤ c ∧ c ≤ '9' then some (c.toNat - '0'.toNat)
  else if 'a' ≤ c ∧ c ≤ 'f' then some (c.toNat - 'a'.toNat + 10)
  else if 'A' ≤ c ∧ c ≤ 'F' then some (c.toNat - 'A'.toNat + 10)
  else none

/-- Whether the character is one of the ten decimal digits. -/
def isDigit (c : Char) : Bool :=
  '0' ≤ c && c ≤ '9'

/-- Whether the character is a hexadecimal digit, in either case. -/
def isHexDigit (c : Char) : Bool :=
  (digitValue? c).isSome

/-- The digit of a value below sixteen, in lower case. -/
def hexDigit (n : Nat) : Char :=
  if n < 10 then Char.ofNat ('0'.toNat + n) else Char.ofNat ('a'.toNat + (n - 10))

/-- The number that a sequence of digits denotes in base `base`, most significant digit first. -/
def ofDigits (base : Nat) (ds : List Nat) : Nat :=
  ds.foldl (fun n d => n * base + d) 0

/-- Reads a non-empty sequence of digits of base `base`; nothing else may be there. -/
def readDigits? (base : Nat) (cs : List Char) : Option Nat :=
  match cs with
  | [] => none
  | _ => do
    let ds ← cs.mapM digitValue?
    if ds.all (· < base) then some (ofDigits base ds) else none

/-- The first value that a 64-bit counter cannot hold. -/
def counterLimit : Nat := Nat.pow 2 64

/-- Reads a 64-bit counter: an optional plus sign, then decimal digits. -/
def readCounter? (s : String) : Option Nat := do
  let digits := match s.toList with
    | '+' :: rest => rest
    | cs => cs
  let n ← readDigits? 10 digits
  if n < counterLimit then some n else none

/-- The number as exactly `width` digits of base `base`, keeping the low digits. -/
def fixedDigits (base : Nat) : (width : Nat) → Nat → List Nat
  | 0, _ => []
  | width + 1, n => fixedDigits base width (n / base) ++ [n % base]

/-- The number in hexadecimal, with exactly `width` lower-case digits. -/
def fixedHex (width n : Nat) : List Char :=
  (fixedDigits 16 width n).map hexDigit

/-- The number in decimal, with at least `width` digits. -/
def paddedDecimal (width n : Nat) : String :=
  let digits := Nat.toDigits 10 n
  String.ofList (List.replicate (width - digits.length) '0' ++ digits)

theorem length_fixedDigits (base width n : Nat) : (fixedDigits base width n).length = width := by
  induction width generalizing n with
  | zero => rfl
  | succ width ih => simp [fixedDigits, ih]

end BuildBroker.Text
