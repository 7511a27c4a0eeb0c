import CrontabRenderer.Calendar
import CrontabRenderer.Schedule.Field

/-!
# Timetables

A timetable holds the numbers allowed in each field of a time. A time is on it if all its fields are
allowed, the day of the month and the day of the week alike. The years end with 2100.
-/
namespace CrontabRenderer.Schedule

structure Timetable where
  seconds : Numbers
  minutes : Numbers
  hours : Numbers
  daysOfMonth : Numbers
  months : Numbers
  daysOfWeek : Numbers
  years : Numbers
  deriving Repr, DecidableEq

/-- The numbers from the first to the last of a field. -/
def Field.range (field : Field) : List Nat :=
  List.range' field.first (field.last + 1 - field.first)

namespace Timetable

/-- The first time of a day that is on the timetable and later than a second. -/
def nextInDay? (t : Timetable) (after : Int) (year month day : Nat) : Option DateTime :=
  Field.hour.range.findSome? fun hour =>
    if t.hours.contain hour then
      Field.minute.range.findSome? fun minute =>
        if t.minutes.contain minute then
          Field.second.range.findSome? fun second =>
            let time : DateTime := ⟨year, month, day, hour, minute, second⟩
            if t.seconds.contain second ∧ after < time.seconds then some time else none
        else none
    else none

/-- The day is on the timetable. -/
def allowsDay (t : Timetable) (year month day : Nat) : Bool :=
  t.daysOfMonth.contain day &&
    t.daysOfWeek.contain (Calendar.weekday (Calendar.dayNumber year month day) + 1)

/-- The first time in a year that is on the timetable and later than a second. Days that have ended
by then are passed over. -/
def nextInYear? (t : Timetable) (after : Int) (year : Nat) : Option DateTime :=
  Field.month.range.findSome? fun month =>
    if t.months.contain month then
      (List.range' 1 (Calendar.daysInMonth year month)).findSome? fun day =>
        if t.allowsDay year month day ∧ after < 86400 * (Calendar.dayNumber year month day + 1) then
          t.nextInDay? after year month day
        else none
    else none

/-- The first time on the timetable that is later than a second counted from the start of 1970. A
search that would have to begin before the year zero finds nothing. -/
def next? (t : Timetable) (after : Int) : Option DateTime :=
  if after + 1 < 86400 * Calendar.dayNumber 0 1 1 then none
  else Field.year.range.findSome? fun year =>
    if t.years.contain year ∧ after < 86400 * Calendar.dayNumber (year + 1) 1 1 then
      t.nextInYear? after year
    else none

/-- The next times in order, at most `n` of them. -/
def nextTimes (t : Timetable) (after : Int) : Nat → List DateTime
  | 0 => []
  | n + 1 =>
    match t.next? after with
    | none => []
    | some time => time :: t.nextTimes time.seconds n

end Timetable

end CrontabRenderer.Schedule
