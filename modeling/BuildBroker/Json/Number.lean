import BuildBroker.Text.Natural
import BuildBroker.Decimal.Shortest

/-!
# JSON Numbers

A number in a document is a natural number, a negative integer or a real. Integers keep their value
as far as a 64-bit counter or a signed 64-bit number holds it. A real keeps the digits that a
counter holds, a power of ten for the rest, and is turned into a double only where it is shown.
-/

namespace BuildBroker.Json

/-- A number of a document: `real negative significand exponent` is
`± significand · 10 ^ exponent`. -/
inductive Number where
  | natural (n : Nat)
  | negative (n : Nat)
  | real (negative : Bool) (significand : Nat) (exponent : Int)
deriving Repr, DecidableEq

namespace Number

/-- `10 ^ n` as a double. -/
def powerOfTen (n : Nat) : Float :=
  Float.ofScientific 1 false n

/-- Scales by a power of ten in steps that a double holds: one division or multiplication at the
end, and divisions by `10 ^ 308` before it. Infinite results are refused. -/
def scale? (fuel : Nat) (x : Float) (e : Int) : Option Float :=
  if e.natAbs ≤ 308 then
    if 0 ≤ e then
      let y := x * powerOfTen e.natAbs
      if y.isInf then none else some y
    else some (x / powerOfTen e.natAbs)
  else if x == 0.0 then some x
  else if 0 ≤ e then none
  else match fuel with
    | 0 => some 0.0
    | fuel + 1 => scale? fuel (x / powerOfTen 308) (e + 308)

/-- The double that a number is read as, unless it is too large for one. -/
def toFloat? : Number → Option Float
  | natural n => some (Float.ofNat n)
  | negative n => some (-(Float.ofNat n))
  | real neg significand exponent =>
    -- three divisions by `10 ^ 308` bring every 64-bit significand to zero
    (scale? 3 (Float.ofNat significand) exponent).map fun x => if neg then -x else x

/-- The number as it is kept once it has been decoded; `none` if it is out of range. -/
def isInRange (n : Number) : Bool :=
  n.toFloat?.isSome

/-- The exponents of ten between which a double is written without an exponent. -/
def positionalFrom : Int := -5

/-- The largest exponent of ten that is written without an exponent. -/
def positionalTo : Int := 15

/-- The text of the digits: positional near one, with `.0` for a whole number; else one digit before
the point and a signed exponent of at least two digits. -/
def renderDigits (d : Decimal.Digits) : List Char :=
  if positionalFrom ≤ d.exponent ∧ d.exponent ≤ positionalTo then
    if d.exponent < 0 then
      ['0', '.'] ++ List.replicate ((-d.exponent).toNat - 1) '0' ++ d.digits
    else
      let whole := d.exponent.toNat + 1
      let int := d.digits.take whole ++ List.replicate (whole - d.digits.length) '0'
      let fraction := d.digits.drop whole
      int ++ ['.'] ++ (if fraction.isEmpty then ['0'] else fraction)
  else
    let fraction := d.digits.drop 1
    d.digits.take 1 ++ (if fraction.isEmpty then [] else '.' :: fraction)
      ++ ['e', if d.exponent < 0 then '-' else '+']
      ++ (Text.paddedDecimal 2 d.exponent.natAbs).toList

/-- The shortest text that reads back as the double. -/
def renderFloat (x : Float) : String :=
  let sign := if Decimal.isNegative x then ['-'] else []
  match Decimal.ofFloat? x with
  | none => String.ofList (sign ++ ['0', '.', '0'])
  | some b => String.ofList (sign ++ renderDigits (Decimal.shortest b))

/-- The number as a document shows it. -/
def render : Number → String
  | natural n => toString n
  | negative n => "-" ++ toString n
  | n => renderFloat (n.toFloat?.getD 0.0)

end Number

end BuildBroker.Json
