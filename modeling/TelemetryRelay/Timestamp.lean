import TelemetryRelay.Bytes

/-! # Instants and their text

    An instant is a number of milliseconds since 1970-01-01T00:00:00Z. Records
    carry instants as RFC 3339 text; anything below a millisecond is cut off.
-/

namespace TelemetryRelay

namespace Timestamp

/-- Milliseconds since the start of 1970 in UTC. -/
abbrev Instant := Int

/-! ## Section 1: The calendar -/

/-- Whether a year has a 29 February. -/
def isLeap (year : Nat) : Bool :=
  year % 4 == 0 && (year % 100 != 0 || year % 400 == 0)

/-- The number of days of a month, from 1 to 12. -/
def daysInMonth (year month : Nat) : Nat :=
  match month with
  | 2 => if isLeap year then 29 else 28
  | 4 | 6 | 9 | 11 => 30
  | _ => 31

/-- The number of days from the start of year 0 to the start of `year`. -/
def daysBeforeYear (year : Nat) : Nat :=
  365 * year + (year + 3) / 4 - (year + 99) / 100 + (year + 399) / 400

/-- The number of days of the first `months` months of a year. -/
def daysBeforeMonth (year : Nat) : Nat → Nat
  | 0 => 0
  | months + 1 => daysBeforeMonth year months + daysInMonth year (months + 1)

/-- The day number of the start of 1970, counted from the start of year 0. -/
def epochDay : Nat := 719528

/-- A date of the Gregorian calendar. -/
structure Date where
  year : Nat
  month : Nat
  day : Nat
deriving DecidableEq, Repr

/-- Whether there is such a date. -/
def Date.isValid (date : Date) : Bool :=
  1 ≤ date.month && date.month ≤ 12 && 1 ≤ date.day &&
    date.day ≤ daysInMonth date.year date.month

/-- The number of days from 1970-01-01. -/
def Date.days (date : Date) : Int :=
  Int.ofNat (daysBeforeYear date.year + daysBeforeMonth date.year (date.month - 1)
    + (date.day - 1)) - Int.ofNat epochDay

/-- A time of day with its milliseconds. A second of 60 is the one after 59. -/
structure Clock where
  hour : Nat
  minute : Nat
  second : Nat
  millis : Nat
deriving DecidableEq, Repr

/-- Whether there is such a time of day. -/
def Clock.isValid (clock : Clock) : Bool :=
  clock.hour ≤ 23 && clock.minute ≤ 59 && clock.second ≤ 60

/-- Milliseconds since midnight. -/
def Clock.sinceMidnight (clock : Clock) : Nat :=
  ((clock.hour * 60 + clock.minute) * 60 + clock.second) * 1000 + clock.millis

/-- The instant of a date and a time of day, `offset` minutes ahead of UTC. -/
def instantOf (date : Date) (clock : Clock) (offset : Int) : Instant :=
  date.days * 86400000 + Int.ofNat clock.sinceMidnight - offset * 60000

/-! ## Section 2: Reading -/

/-- What is wrong with the text of an instant. -/
inductive Fault where
  | tooShort
  | invalid
  | outOfRange
  | trailing
deriving DecidableEq, Repr

/-- The message of a fault. -/
def Fault.message : Fault → String
  | .tooShort => "premature end of input"
  | .invalid => "input contains invalid characters"
  | .outOfRange => "input is out of range"
  | .trailing => "trailing input"

/-- The octets at the front, if any, read as so many digits. -/
def digits : Nat → Nat → Bytes → Except Fault (Nat × Bytes)
  | 0, n, octets => .ok (n, octets)
  | _ + 1, _, [] => .error .tooShort
  | count + 1, n, b :: rest =>
    if Bytes.isDigit b then digits count (n * 10 + Bytes.digitValue b) rest
    else .error .invalid

/-- Reads one of the given octets. -/
def oneOf (choices : Bytes) : Bytes → Except Fault Bytes
  | [] => .error .tooShort
  | b :: rest => if choices.contains b then .ok rest else .error .invalid

/-- Reads a date that exists. -/
def date (octets : Bytes) : Except Fault (Date × Bytes) := do
  let (year, rest) ← digits 4 0 octets
  let rest ← oneOf [45] rest
  let (month, rest) ← digits 2 0 rest
  let rest ← oneOf [45] rest
  let (day, rest) ← digits 2 0 rest
  if (Date.mk year month day).isValid then .ok (⟨year, month, day⟩, rest)
  else .error .outOfRange

/-- Drops the digits in front. -/
def dropDigits : Bytes → Bytes
  | [] => []
  | b :: rest => if Bytes.isDigit b then dropDigits rest else b :: rest

/-- The milliseconds of the digits after a decimal point: the first three, with
    zeros for those that are missing. -/
def millisOf : Nat → Nat → Bytes → Nat
  | 0, n, _ => n
  | count + 1, n, [] => millisOf count (n * 10) []
  | count + 1, n, b :: rest =>
    if Bytes.isDigit b then millisOf count (n * 10 + Bytes.digitValue b) rest
    else millisOf count (n * 10) []

/-- Reads an optional fraction of a second, of which there must be a digit after
    the point. -/
def fraction : Bytes → Except Fault (Nat × Bytes)
  | 46 :: [] => .error .tooShort
  | 46 :: b :: rest =>
    if Bytes.isDigit b then .ok (millisOf 3 0 (b :: rest), dropDigits (b :: rest))
    else .error .invalid
  | octets => .ok (0, octets)

/-- Reads a time of day that exists. -/
def clock (octets : Bytes) : Except Fault (Clock × Bytes) := do
  let (hour, rest) ← digits 2 0 octets
  let rest ← oneOf [58] rest
  let (minute, rest) ← digits 2 0 rest
  let rest ← oneOf [58] rest
  let (second, rest) ← digits 2 0 rest
  let (millis, rest) ← fraction rest
  if (Clock.mk hour minute second millis).isValid then
    .ok (⟨hour, minute, second, millis⟩, rest)
  else .error .outOfRange

/-- Reads the sign of an offset: whether it is a minus, plain or typographic. -/
def offsetSign : Bytes → Except Fault (Bool × Bytes)
  | [] => .error .tooShort
  | 43 :: rest => .ok (false, rest)
  | 45 :: rest => .ok (true, rest)
  | 226 :: 136 :: 146 :: rest => .ok (true, rest)
  | _ => .error .invalid

/-- Reads two digits that must both be there before either is looked at. -/
def pair : Bytes → Except Fault (Nat × Nat × Bytes)
  | a :: b :: rest =>
    if Bytes.isDigit a && Bytes.isDigit b then
      .ok (Bytes.digitValue a, Bytes.digitValue b, rest)
    else .error .invalid
  | _ => .error .tooShort

/-- Reads an offset from UTC in minutes. -/
def offset : Bytes → Except Fault (Int × Bytes)
  | 90 :: rest => .ok (0, rest)
  | 122 :: rest => .ok (0, rest)
  | octets => do
    let (minus, rest) ← offsetSign octets
    let (h, k, rest) ← pair rest
    let rest ← oneOf [58] rest
    let (m, n, rest) ← pair rest
    if 6 ≤ m then .error .outOfRange
    else
      let minutes := Int.ofNat ((h * 10 + k) * 60 + m * 10 + n)
      .ok (if minus then -minutes else minutes, rest)

/-- Reads the text of an instant. -/
def parse (text : String) : Except Fault Instant := do
  let octets := Bytes.ofText text
  if (octets.take 19).length < 19 then .error .tooShort
  else
    let (date, rest) ← date octets
    let rest ← oneOf [84, 116, 32] rest
    let (clock, rest) ← clock rest
    let (offset, rest) ← offset rest
    if !rest.isEmpty then .error .trailing
    else if 24 * 60 ≤ offset.natAbs then .error .outOfRange
    else .ok (instantOf date clock offset)

/-! ## Section 3: Printing -/

/-- A number in decimal with at least `width` digits. -/
def padded (width n : Nat) : String :=
  let digits := toString n
  String.ofList (List.replicate (width - digits.length) '0') ++ digits

/-- The date of a day number, in any year. Days are counted in cycles of 400
    years that start in March, so that a leap day is the last of its year. -/
def civil (days : Int) : Int × Nat × Nat :=
  let z := days + 719468
  let cycle := z / 146097
  let dayOfCycle := (z % 146097).toNat
  let yearOfCycle :=
    (dayOfCycle - dayOfCycle / 1460 + dayOfCycle / 36524 - dayOfCycle / 146096) / 365
  let dayOfYear := dayOfCycle - (365 * yearOfCycle + yearOfCycle / 4 - yearOfCycle / 100)
  let shifted := (5 * dayOfYear + 2) / 153
  let day := dayOfYear - (153 * shifted + 2) / 5 + 1
  let month := if shifted < 10 then shifted + 3 else shifted - 9
  let year := Int.ofNat yearOfCycle + cycle * 400
  (if month ≤ 2 then year + 1 else year, month, day)

/-- A year with four digits, or signed if it needs more or lies before year 0. -/
def yearText (year : Int) : String :=
  if 0 ≤ year && year ≤ 9999 then padded 4 year.toNat
  else (if year < 0 then "-" else "+") ++ padded 4 year.natAbs

/-- The text of an instant in UTC, with milliseconds only if there are any. -/
def text (instant : Instant) : String :=
  let (year, month, day) := civil (instant / 86400000)
  let rest := (instant % 86400000).toNat
  let seconds := rest / 1000
  let millis := rest % 1000
  yearText year ++ "-" ++ padded 2 month ++ "-" ++ padded 2 day ++ "T"
    ++ padded 2 (seconds / 3600) ++ ":" ++ padded 2 (seconds / 60 % 60) ++ ":"
    ++ padded 2 (seconds % 60)
    ++ (if millis == 0 then "" else "." ++ padded 3 millis) ++ "+00:00"

end Timestamp

end TelemetryRelay
