import CrontabRenderer.Schedule.Reader
import CrontabRenderer.Schedule.Weekday
import CrontabRenderer.Text.Lowercase
import CrontabRenderer.Text.Quoted

/-!
# Schedules

A schedule is the time expression of a crontab line: five fields, or a shortcut such as `@daily`.
The expression is kept as it was written; the timetable answers when the line runs next.
-/
namespace CrontabRenderer

inductive ScheduleError where
  | invalid (expression : String) (fault : Schedule.Fault)
  | unknownShortcut (expression : String)
  | noMoreOccurrences
  deriving Repr, DecidableEq

def ScheduleError.message : ScheduleError → String
  | .invalid expression fault =>
    "invalid cron expression '" ++ expression ++ "'" ++
      match fault.reason? with
      | some reason => ": " ++ reason
      | none => ""
  | .unknownShortcut expression => "unknown schedule shortcut: " ++ expression
  | .noMoreOccurrences => "no more occurrences"

namespace Schedule

inductive Timing where
  /-- Once, when the machine starts. -/
  | reboot
  | timetable (timetable : Timetable)
  deriving Repr, DecidableEq

/-- The timetable of five crontab fields. Jobs start at second zero. -/
def readFields (expression : String) : Except Fault Timetable :=
  match Text.wordsOf expression.toList with
  | [minute, hour, dayOfMonth, month, dayOfWeek] => do
    let dayOfWeek ← Weekday.renumber dayOfWeek
    let fields := [' '].intercalate [['0'], minute, hour, dayOfMonth, month, dayOfWeek]
    match readTimetable? fields with
    | some timetable => .ok timetable
    | none => .error .unreadable
  | words => .error (.fieldCount words.length)

def ofFields (expression : String) : Except ScheduleError Timing :=
  match readFields expression with
  | .ok timetable => .ok (.timetable timetable)
  | .error fault => .error (.invalid expression fault)

/-- The timing of a shortcut, whose letters may be small or capital. -/
def ofShortcut (expression : String) : Except ScheduleError Timing :=
  let name := Text.lowercase expression
  if name = "@reboot" then .ok .reboot
  else if name = "@yearly" ∨ name = "@annually" then ofFields "0 0 1 1 *"
  else if name = "@monthly" then ofFields "0 0 1 * *"
  else if name = "@weekly" then ofFields "0 0 * * 0"
  else if name = "@daily" ∨ name = "@midnight" then ofFields "0 0 * * *"
  else if name = "@hourly" then ofFields "0 * * * *"
  else .error (.unknownShortcut expression)

end Schedule

structure Schedule where
  /-- The expression without blanks at its ends. -/
  expression : String
  timing : Schedule.Timing
  deriving Repr, DecidableEq

namespace Schedule

def ofText (text : String) : Except ScheduleError Schedule := do
  let expression := Text.trim text
  let timing ←
    if expression.toList.head? = some '@' then ofShortcut expression else ofFields expression
  return ⟨expression, timing⟩

def isReboot (schedule : Schedule) : Bool := schedule.timing == .reboot

/-- The next run after a time, whose fraction of a second does not count. -/
def nextAfter (schedule : Schedule) (time : Instant) : Except ScheduleError DateTime :=
  match schedule.timing with
  | .reboot => .error .noMoreOccurrences
  | .timetable timetable =>
    match timetable.next? time.wholeSeconds with
    | some next => .ok next
    | none => .error .noMoreOccurrences

/-- The next runs after a time, at most `n` of them. -/
def nextRunsAfter (schedule : Schedule) (time : Instant) (n : Nat) : List DateTime :=
  match schedule.timing with
  | .reboot => []
  | .timetable timetable => timetable.nextTimes time.wholeSeconds n

/-- A schedule as a record with its expression. -/
def describe (schedule : Schedule) : String :=
  "Schedule \x7b expression: " ++ Text.quoted schedule.expression ++ " \x7d"

end Schedule

end CrontabRenderer
