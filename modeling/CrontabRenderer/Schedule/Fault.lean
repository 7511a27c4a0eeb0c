/-!
# Faults of time expressions

Why five words, or a different number of them, are no time expression.
-/
namespace CrontabRenderer.Schedule

inductive Fault where
  | fieldCount (count : Nat)
  | weekdayOutOfRange (token : String)
  | weekdaysBackwards (range : String)
  /-- A range of days with a step ends on Sunday as day `7`. -/
  | weekdaysToSunday (item : String)
  /-- The fields make no timetable. -/
  | unreadable
  deriving Repr, DecidableEq

/-- The reason that a message gives, where it gives one. -/
def Fault.reason? : Fault → Option String
  | .fieldCount count => some ("expected 5 fields, got " ++ toString count)
  | .weekdayOutOfRange token => some ("weekday '" ++ token ++ "' out of range 0-7")
  | .weekdaysBackwards range => some ("weekday range '" ++ range ++ "' runs backwards")
  | .weekdaysToSunday item =>
    some ("stepped weekday range '" ++ item ++ "' ending on Sunday is not supported")
  | .unreadable => none

end CrontabRenderer.Schedule
