import CrontabRenderer.Decimal.Shortest

/-!
# Calendar

Days and seconds of the Gregorian calendar in universal time, counted from the start of 1970.
-/
namespace CrontabRenderer.Calendar

def isLeap (year : Nat) : Bool := year % 4 == 0 && (year % 100 != 0 || year % 400 == 0)

def daysInMonth (year month : Nat) : Nat :=
  if month = 2 then if isLeap year then 29 else 28
  else if month = 4 ∨ month = 6 ∨ month = 9 ∨ month = 11 then 30
  else 31

/-- The days of the years before a year, from year zero on. -/
def daysBeforeYear (year : Nat) : Int :=
  365 * year + ((year + 3) / 4 : Nat) - ((year + 99) / 100 : Nat) + ((year + 399) / 400 : Nat)

def daysBeforeMonth (year month : Nat) : Nat :=
  (List.range' 1 (month - 1)).foldl (fun days month => days + daysInMonth year month) 0

/-- The days from the start of 1970 to a day. -/
def dayNumber (year month day : Nat) : Int :=
  daysBeforeYear year - daysBeforeYear 1970 + daysBeforeMonth year month + day - 1

/-- The day of the week, from Sunday at `0`. The first day of 1970 was a Thursday. -/
def weekday (dayNumber : Int) : Nat := ((dayNumber + 4) % 7).toNat

end Calendar

/-- A second of the calendar. -/
structure DateTime where
  year : Nat
  month : Nat
  day : Nat
  hour : Nat
  minute : Nat
  second : Nat
  deriving Repr, DecidableEq

namespace DateTime

def dayNumber (t : DateTime) : Int := Calendar.dayNumber t.year t.month t.day

/-- The seconds from the start of 1970. -/
def seconds (t : DateTime) : Int :=
  86400 * t.dayNumber + (3600 * t.hour + 60 * t.minute + t.second : Nat)

def date (t : DateTime) : List Char :=
  Decimal.padded 4 t.year ++ ['-'] ++ Decimal.padded 2 t.month ++ ['-'] ++ Decimal.padded 2 t.day

def clock (t : DateTime) : List Char :=
  Decimal.padded 2 t.hour ++ [':'] ++ Decimal.padded 2 t.minute

/-- The time with its seconds, as timestamps are written. -/
def timestamp (t : DateTime) : String :=
  .ofList (t.date ++ ['T'] ++ t.clock ++ [':'] ++ Decimal.padded 2 t.second ++ ['Z'])

/-- The time to the minute, as listings show it. -/
def toMinute (t : DateTime) : String := .ofList (t.date ++ [' '] ++ t.clock) ++ " UTC"

end DateTime

/-- A point in time, in nanoseconds from the start of 1970. The calendar has no number for a leap
second: a point within one has that of the point a second before. -/
structure Instant where
  nanoseconds : Int
  inLeapSecond : Bool := false
  deriving Repr, DecidableEq

namespace Instant

/-- The nanoseconds of a second. -/
def perSecond : Int := 1000000000

def ofSeconds (seconds : Int) : Instant := { nanoseconds := seconds * perSecond }

/-- The last whole second that is not later. -/
def wholeSeconds (t : Instant) : Int := t.nanoseconds / perSecond

/-- The point that many nanoseconds later, or earlier if they are negative. A leap second takes no
time for a point that leaves it forwards, and its second for one that leaves it backwards. -/
def after (t : Instant) (nanoseconds : Int) : Instant :=
  let place := t.nanoseconds % perSecond + nanoseconds
  let later := t.nanoseconds + nanoseconds
  if !t.inLeapSecond then { nanoseconds := later }
  else if place < 0 then { nanoseconds := later + perSecond }
  else { nanoseconds := later, inLeapSecond := place < perSecond }

/-- Reads a number of exactly that many digits. -/
def fixedDigits? (width : Nat) (s : List Char) : Option (Nat × List Char) := do
  let digits := s.take width
  let value ← if digits.length = width then Decimal.ofDigits? 10 digits else none
  return (value, s.drop width)

/-- Takes one of some characters off the front. -/
def oneOf? (marks : List Char) : List Char → Option (Char × List Char)
  | c :: rest => if c ∈ marks then some (c, rest) else none
  | [] => none

/-- The distance from universal time at the end of a timestamp, in seconds. -/
def offset? (s : List Char) : Option Int :=
  match s with
  | ['Z'] | ['z'] => some 0
  | _ => do
    let (sign, s) ← oneOf? ['+', '-'] s
    let (hours, s) ← fixedDigits? 2 s
    let (_, s) ← oneOf? [':'] s
    let (minutes, s) ← fixedDigits? 2 s
    if s = [] ∧ hours ≤ 23 ∧ minutes ≤ 59 then
      let distance : Int := 3600 * hours + 60 * minutes
      return if sign = '-' then -distance else distance
    else none

/-- Reads a timestamp: date, time, an optional fraction of the second, distance from universal
time. Every minute may have a leap second, its sixtieth. -/
def ofTimestamp? (text : String) : Option Instant := do
  let (year, s) ← fixedDigits? 4 text.toList
  let (_, s) ← oneOf? ['-'] s
  let (month, s) ← fixedDigits? 2 s
  let (_, s) ← oneOf? ['-'] s
  let (day, s) ← fixedDigits? 2 s
  let (_, s) ← oneOf? ['T', 't', ' '] s
  let (hour, s) ← fixedDigits? 2 s
  let (_, s) ← oneOf? [':'] s
  let (minute, s) ← fixedDigits? 2 s
  let (_, s) ← oneOf? [':'] s
  let (second, s) ← fixedDigits? 2 s
  let (fraction, s) ← match s with
    | '.' :: s =>
      let (digits, s) := Decimal.spanDigits s
      (Decimal.ofDigits? 10 ((digits ++ List.replicate 9 '0').take 9)).map fun n => (n, s)
    | s => some (0, s)
  let distance ← offset? s
  if 1 ≤ month ∧ month ≤ 12 ∧ 1 ≤ day ∧ day ≤ Calendar.daysInMonth year month ∧ hour ≤ 23 ∧
      minute ≤ 59 ∧ second ≤ 60 then
    let t : DateTime := ⟨year, month, day, hour, minute, min second 59⟩
    return { (ofSeconds (t.seconds - distance)).after fraction with inLeapSecond := second = 60 }
  else none

end Instant

end CrontabRenderer
