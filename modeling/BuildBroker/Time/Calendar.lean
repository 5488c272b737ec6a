/-!
# Calendar

Days and dates of the proleptic Gregorian calendar, and instants in UTC with nanoseconds. Days are
numbered from the first day of the year 1; `Date.number` and `Date.ofNumber` go between a date and
its number.
-/

namespace BuildBroker.Time

/-- Whether the year has a 29th of February. -/
def isLeapYear (y : Int) : Bool :=
  (y % 4 = 0 && y % 100 ≠ 0) || y % 400 = 0

/-- The number of days of a month. -/
def daysInMonth (y : Int) (month : Nat) : Nat :=
  if month = 2 then (if isLeapYear y then 29 else 28)
  else if month = 4 || month = 6 || month = 9 || month = 11 then 30 else 31

/-- The days from the start of the year 1 to the start of the year; negative before it. -/
def daysBeforeYear (y : Int) : Int :=
  let p := y - 1
  365 * p + p.fdiv 4 - p.fdiv 100 + p.fdiv 400

/-- The days of the year before the month. -/
def daysBeforeMonth (y : Int) : (month : Nat) → Nat
  | 0 => 0
  | 1 => 0
  | month + 1 => daysBeforeMonth y month + daysInMonth y month

/-- A date of the calendar. -/
structure Date where
  year : Int
  month : Nat
  day : Nat
deriving DecidableEq, Repr

namespace Date

/-- The number of the day, counted from the first day of the year 1. -/
def number (d : Date) : Int :=
  daysBeforeYear d.year + daysBeforeMonth d.year d.month + d.day - 1

/-- The date of the given parts, if the month has such a day. -/
def ofParts? (year : Int) (month day : Nat) : Option Date :=
  if 1 ≤ month ∧ month ≤ 12 ∧ 1 ≤ day ∧ day ≤ daysInMonth year month then some ⟨year, month, day⟩
  else none

/-- The month and the day in it of the day with number `n` in its year, counted from zero; `left`
months are still to be looked at. -/
def inYear (year : Int) (month n : Nat) : (left : Nat) → Date
  | 0 => ⟨year, month, n + 1⟩
  | left + 1 =>
    if n < daysInMonth year month then ⟨year, month, n + 1⟩
    else inYear year (month + 1) (n - daysInMonth year month) left

/-- The date of the day with the given number. -/
def ofNumber (n : Int) : Date :=
  let guess := (n * 400).fdiv 146097 + 1
  -- the mean year may put the guess one year off, either way
  let year :=
    if n < daysBeforeYear guess then guess - 1
    else if daysBeforeYear (guess + 1) ≤ n then guess + 1
    else guess
  inYear year 1 (n - daysBeforeYear year).toNat 11

end Date

/-- A moment in UTC. A leap second is kept as a second that is longer than a billion nanoseconds. -/
structure Instant where
  date : Date
  /-- Seconds since midnight, below 86400. -/
  second : Nat
  /-- Nanoseconds, below a billion, or below two billion in a leap second. -/
  nanosecond : Nat
deriving DecidableEq, Repr

namespace Instant

/-- The seconds of a day. -/
def daySeconds : Nat := 86400

/-- The nanoseconds of a second. -/
def secondNanos : Nat := 1000000000

/-- The order of moments: by second, then inside it. -/
def key (i : Instant) : Int :=
  (i.date.number * daySeconds + i.second) * (2 * secondNanos) + i.nanosecond

/-- The moment that a clock shows that is `offset` seconds ahead of UTC. -/
def atOffset (local_ : Instant) (offset : Int) : Instant :=
  let total := local_.date.number * daySeconds + local_.second - offset
  { local_ with
    date := .ofNumber (total.fdiv daySeconds)
    second := (total.fmod daySeconds).toNat }

/-- The first day that clocks count from. -/
def epoch : Date := ⟨1970, 1, 1⟩

/-- The moment so many seconds and nanoseconds after the start of the epoch. -/
def ofEpoch (seconds nanoseconds : Nat) : Instant where
  date := .ofNumber (epoch.number + (seconds / daySeconds : Nat))
  second := seconds % daySeconds
  nanosecond := nanoseconds

end Instant

end BuildBroker.Time
