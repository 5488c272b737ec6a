/-!
# Shortest Decimals

The decimal with the fewest digits that still reads back as a given binary number. A positive
binary number is `m · 2 ^ q`; the reals that round to it form an interval, whose ends belong to it
when `m` is even. For one digit, two digits and so on the two neighbours of the number on that
decimal grid are tried, in exact arithmetic.
-/

namespace BuildBroker.Decimal

/-- A non-negative fraction. -/
structure Ratio where
  num : Nat
  den : Nat

namespace Ratio

/-- Whether the first fraction is smaller. -/
def lt (a b : Ratio) : Bool :=
  a.num * b.den < b.num * a.den

/-- `n · base ^ e`. -/
def scaled (n base : Nat) (e : Int) : Ratio :=
  if 0 ≤ e then ⟨n * Nat.pow base e.toNat, 1⟩ else ⟨n, Nat.pow base (-e).toNat⟩

/-- The distance of two fractions. -/
def distance (a b : Ratio) : Ratio :=
  let x := a.num * b.den
  let y := b.num * a.den
  ⟨if x ≤ y then y - x else x - y, a.den * b.den⟩

end Ratio

/-- The digits of a decimal and the power of ten of the first of them. -/
structure Digits where
  digits : List Char
  exponent : Int

/-- A positive binary number `m · 2 ^ q`, with the fact whether the gap below it is half as wide. -/
structure Binary where
  significand : Nat
  exponent : Int
  narrowBelow : Bool

namespace Binary

/-- The number itself. -/
def value (b : Binary) : Ratio :=
  .scaled b.significand 2 b.exponent

/-- The lower end of the reals that round to the number. -/
def lower (b : Binary) : Ratio :=
  if b.narrowBelow then .scaled (4 * b.significand - 1) 2 (b.exponent - 2)
  else .scaled (2 * b.significand - 1) 2 (b.exponent - 1)

/-- The upper end of the reals that round to the number. -/
def upper (b : Binary) : Ratio :=
  .scaled (2 * b.significand + 1) 2 (b.exponent - 1)

/-- Whether a real reads back as the number. -/
def admits (b : Binary) (r : Ratio) : Bool :=
  if b.significand % 2 = 0 then !r.lt b.lower && !b.upper.lt r
  else b.lower.lt r && r.lt b.upper

end Binary

/-- The power of ten of the first digit of a positive fraction. -/
def leadingExponent (r : Ratio) : Int :=
  if r.den ≤ r.num then ((Nat.toDigits 10 (r.num / r.den)).length : Int) - 1
  else
    let guess := (Nat.toDigits 10 r.den).length - (Nat.toDigits 10 r.num).length
    if r.den ≤ r.num * Nat.pow 10 guess then -(guess : Int) else -((guess : Int) + 1)

/-- Drops the zeros that a sequence of digits ends with. -/
def dropEndZeros (ds : List Char) : List Char :=
  (ds.reverse.dropWhile (· = '0')).reverse

/-- The neighbours of the number on the grid of `n` digits that read back, the nearer one first. -/
def onGrid? (b : Binary) (lead : Int) (n : Nat) : Option Digits :=
  let e := lead - n + 1
  let v := b.value
  let below :=
    if 0 ≤ e then v.num / (v.den * Nat.pow 10 e.toNat) else v.num * Nat.pow 10 (-e).toNat / v.den
  let low := Ratio.scaled below 10 e
  let high := Ratio.scaled (below + 1) 10 e
  let write (k : Nat) : Digits :=
    let ds := Nat.toDigits 10 k
    ⟨dropEndZeros ds, e + ds.length - 1⟩
  match b.admits low && below ≠ 0, b.admits high with
  | true, true =>
    if (v.distance high).lt (v.distance low) then some (write (below + 1)) else some (write below)
  | true, false => some (write below)
  | false, true => some (write (below + 1))
  | false, false => none

/-- The fewest digits that read back as a positive binary number; seventeen always do. -/
def shortest (b : Binary) : Digits :=
  let lead := leadingExponent b.value
  ((List.range 17).findSome? fun i => onGrid? b lead (i + 1)).getD ⟨['0'], 0⟩

/-- The parts of a double that is neither zero, infinite nor undefined. -/
def ofFloat? (x : Float) : Option Binary :=
  let bits := x.toBits.toNat
  let fraction : Nat := bits % Nat.pow 2 52
  let biased : Nat := bits / Nat.pow 2 52 % 2048
  if biased = 2047 then none
  else if biased = 0 then
    if fraction = 0 then none else some ⟨fraction, -1074, false⟩
  else some ⟨Nat.pow 2 52 + fraction, (biased : Int) - 1075, fraction = 0 && 1 < biased⟩

/-- Whether the sign of a double is set, also that of a zero. -/
def isNegative (x : Float) : Bool :=
  Nat.pow 2 63 ≤ x.toBits.toNat

end BuildBroker.Decimal
