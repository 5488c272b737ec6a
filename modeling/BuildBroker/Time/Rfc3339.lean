import BuildBroker.Text.Blank
import BuildBroker.Text.Natural
import BuildBroker.Time.Calendar

/-!
# Times in Text

Instants are written as RFC 3339 in UTC with as few groups of three fraction digits as hold the
value. Reading is more generous: `t` or a blank for the `T`, `z` or `UTC` for the `Z`, blanks before
numbers and separators, and numbers with fewer digits.
-/

namespace BuildBroker.Time

/-- Why a text is no time. -/
inductive TimeError where
  | outOfRange
  | impossible
  | invalid
  | tooShort
  | tooLong
deriving DecidableEq, Repr

/-- The words for the error. -/
def TimeError.message : TimeError → String
  | .outOfRange => "input is out of range"
  | .impossible => "no possible date and time matching input"
  | .invalid => "input contains invalid characters"
  | .tooShort => "premature end of input"
  | .tooLong => "trailing input"

/-- The outcome of one step of reading a time. -/
abbrev Read (α : Type) := Except TimeError α

/-! ## Reading -/

/-- At most `width` digits, at least one of them. -/
def readNumber (width : Nat) (cs : List Char) : Read (List Char × List Char) :=
  match cs with
  | [] => .error .tooShort
  | _ =>
    let ds := (cs.take width).takeWhile Text.isDigit
    if ds.isEmpty then .error .invalid else .ok (ds, cs.drop ds.length)

/-- The value of a sequence of decimal digits. -/
def decimal (ds : List Char) : Nat :=
  Text.ofDigits 10 (ds.filterMap Text.digitValue?)

/-- A number of at most two digits between two bounds; blanks may precede it. -/
def readPart (low high : Nat) (cs : List Char) : Read (Nat × List Char) := do
  let (ds, rest) ← readNumber 2 (Text.dropBlank cs)
  let n := decimal ds
  if low ≤ n ∧ n ≤ high then .ok (n, rest) else .error .outOfRange

/-- A separator; blanks may precede it. -/
def readMark (mark : Char) (cs : List Char) : Read (List Char) :=
  match Text.dropBlank cs with
  | [] => .error .tooShort
  | c :: rest => if c = mark then .ok rest else .error .invalid

/-- The first value that a signed 32-bit year cannot hold. -/
def yearLimit : Nat := Nat.pow 2 31

/-- A year: four digits, or a sign and any number of digits. -/
def readYear (cs : List Char) : Read (Int × List Char) := do
  match Text.dropBlank cs with
  | '-' :: rest =>
    let (ds, rest) ← readNumber rest.length rest
    if decimal ds ≤ yearLimit then .ok (-(decimal ds : Int), rest) else .error .outOfRange
  | '+' :: rest =>
    let (ds, rest) ← readNumber rest.length rest
    if decimal ds < yearLimit then .ok ((decimal ds : Int), rest) else .error .outOfRange
  | cs =>
    let (ds, rest) ← readNumber 4 cs
    .ok ((decimal ds : Int), rest)

/-- The nanoseconds after a point, if there is one; digits after the ninth do not count. -/
def readFraction : List Char → Read (Nat × List Char)
  | '.' :: rest => do
    let (ds, rest) ← readNumber 9 rest
    .ok (decimal ds * Nat.pow 10 (9 - ds.length), rest.dropWhile Text.isDigit)
  | cs => .ok (0, cs)

/-- Two digits, as long as the text is; a single character that is not ASCII counts as two. -/
def twoDigits (cs : List Char) : Read (Nat × Nat × List Char) :=
  match cs with
  | [] => .error .tooShort
  | [c] => if c.toNat < 128 then .error .tooShort else .error .invalid
  | a :: b :: rest =>
    if Text.isDigit a && Text.isDigit b then .ok (decimal [a], decimal [b], rest)
    else .error .invalid

/-- The seconds of an offset after its sign. -/
def readOffsetValue (cs : List Char) : Read (Nat × List Char) := do
  let (h1, h2, rest) ← twoDigits cs
  let (m1, m2, rest) ← twoDigits (rest.dropWhile fun c => c = ':' || Text.isBlank c)
  if m1 < 6 then .ok ((h1 * 10 + h2) * 3600 + (m1 * 10 + m2) * 60, rest) else .error .outOfRange

/-- The offset from UTC in seconds. -/
def readOffset (cs : List Char) : Read (Int × List Char) :=
  if (cs.take 3).map Char.toUpper = ['U', 'T', 'C'] then .ok (0, cs.drop 3)
  else match cs with
    | [] => .error .tooShort
    | c :: rest =>
      if c = 'Z' || c = 'z' then .ok (0, rest)
      else if c = '+' then (readOffsetValue rest).map fun (n, rest) => ((n : Int), rest)
      else if c = '-' || c = '\u2212' then
        (readOffsetValue rest).map fun (n, rest) => (-(n : Int), rest)
      else .error .invalid

/-- The parting character between date and time. -/
def readParting : List Char → Read (List Char)
  | [] => .error .tooShort
  | c :: rest => if c = 't' || c = 'T' || c = ' ' then .ok rest else .error .invalid

/-- The years that a calendar date may have. -/
def isYear (y : Int) : Bool := -262143 ≤ y && y ≤ 262142

/-- Reads a time. -/
def Instant.ofChars (cs : List Char) : Read Instant := do
  let (year, cs) ← readYear cs
  let cs ← readMark '-' cs
  let (month, cs) ← readPart 1 12 cs
  let cs ← readMark '-' cs
  let (day, cs) ← readPart 1 31 cs
  let cs ← readParting cs
  let (hour, cs) ← readPart 0 23 cs
  let cs ← readMark ':' cs
  let (minute, cs) ← readPart 0 59 cs
  let cs ← readMark ':' cs
  let (second, cs) ← readPart 0 60 cs
  let (nanos, cs) ← readFraction cs
  let (offset, cs) ← readOffset (Text.dropBlank cs)
  if !(Text.dropBlank cs).isEmpty then throw .tooLong
  let some date := Date.ofParts? year month day | throw .outOfRange
  if !isYear year || daySeconds ≤ offset.natAbs then throw .outOfRange
  let wall : Instant :=
    { date
      second := hour * 3600 + minute * 60 + min second 59
      nanosecond := nanos + (if second = 60 then secondNanos else 0) }
  let i := wall.atOffset offset
  if isYear i.date.year then .ok i else throw .impossible

/-- Reads a time. -/
def Instant.ofText (s : String) : Read Instant :=
  Instant.ofChars s.toList

/-! ## Writing -/

/-- A year: four digits, with a sign if that is not enough or the year is negative. -/
def renderYear (y : Int) : String :=
  if y < 0 then "-" ++ Text.paddedDecimal 4 y.natAbs
  else if y ≤ 9999 then Text.paddedDecimal 4 y.toNat
  else "+" ++ toString y.toNat

/-- The fraction of a second: none, or three, six or nine digits. -/
def renderFraction (nanos : Nat) : String :=
  if nanos = 0 then ""
  else if nanos % 1000000 = 0 then "." ++ Text.paddedDecimal 3 (nanos / 1000000)
  else if nanos % 1000 = 0 then "." ++ Text.paddedDecimal 6 (nanos / 1000)
  else "." ++ Text.paddedDecimal 9 nanos

/-- The written form of a moment. -/
def Instant.toText (i : Instant) : String :=
  let two := Text.paddedDecimal 2
  let leap := i.nanosecond / secondNanos
  renderYear i.date.year ++ "-" ++ two i.date.month ++ "-" ++ two i.date.day ++ "T"
    ++ two (i.second / 3600) ++ ":" ++ two (i.second / 60 % 60) ++ ":" ++ two (i.second % 60 + leap)
    ++ renderFraction (i.nanosecond % secondNanos) ++ "Z"

end BuildBroker.Time
