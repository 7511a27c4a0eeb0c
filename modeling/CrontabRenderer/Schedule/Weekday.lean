import CrontabRenderer.Decimal.Digits
import CrontabRenderer.Schedule.Fault
import CrontabRenderer.Text.Blank

/-!
# Days of the week

A crontab numbers the days from Sunday at `0` to Saturday at `6` and takes `7` for Sunday too. A
timetable numbers them from Sunday at `1` to Saturday at `7`. Numbers and ranges of numbers are
renumbered; names, stars and whatever else is written pass unchanged.
-/
namespace CrontabRenderer.Schedule.Weekday

/-- The number that a token is; `none` if it is not made of digits. -/
def number? (token : List Char) : Except Fault (Option Nat) :=
  match Decimal.ofDigits? 10 token with
  | none => .ok none
  | some day => if day ≤ 7 then .ok (some day) else .error (.weekdayOutOfRange (.ofList token))

def withStep (step : Option (List Char)) (range : List Char) : List Char :=
  match step with
  | none => range
  | some step => range ++ '/' :: step

/-- A range of timetable numbers. -/
def range (first last : Nat) : List Char := Decimal.digits first ++ '-' :: Decimal.digits last

/-- The items for a range of crontab numbers. A range that ends on Sunday is cut into the days up to
Saturday and the Sunday, unless it starts on a Sunday. -/
def renumberRange (item written : List Char) (first last : Nat) (step : Option (List Char)) :
    Except Fault (List (List Char)) :=
  if last < first then .error (.weekdaysBackwards (.ofList written))
  else if first = 7 then .ok [withStep step ['1']]
  else if last < 7 then .ok [withStep step (range (first + 1) (last + 1))]
  else if first = 0 then .ok [withStep step (range 1 7)]
  else match step with
    | none => .ok [range (first + 1) 7, ['1']]
    | some _ => .error (.weekdaysToSunday (.ofList item))

def renumberItem (item : List Char) : Except Fault (List (List Char)) := do
  let (written, step) := match Text.splitOnce '/' item with
    | some (written, step) => (written, some step)
    | none => (item, none)
  match Text.splitOnce '-' written with
  | some (first, last) =>
    match ← number? first, ← number? last with
    | some first, some last => renumberRange item written first last step
    | _, _ => return [withStep step written]
  | none =>
    match ← number? written with
    | some day => return [withStep step (Decimal.digits (day % 7 + 1))]
    | none => return [withStep step written]

/-- The field for a timetable that a field of a crontab stands for. -/
def renumber (field : List Char) : Except Fault (List Char) := do
  let items ← (Text.cutAt (· = ',') field).mapM renumberItem
  return [','].intercalate items.flatten

end CrontabRenderer.Schedule.Weekday
