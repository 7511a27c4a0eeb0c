import CrontabRenderer.Schedule.Timetable

/-!
# Reading timetables

A timetable is written as six fields, from the second to the day of the week, and an optional year.
A field is a list of items with commas between them. Every field takes as much of the text as it
can. Spaces may stand around a field and around the numbers and names in it, but not around a star
or a question mark inside a field. They need not stand between two fields: in `5*` the first field
ends before the star. The fields together make up the whole text.
-/
namespace CrontabRenderer.Schedule

def skipSpaces (s : List Char) : List Char := s.dropWhile (· = ' ')

/-- The greatest number that can be read. -/
def largestNumber : Nat := 0xFFFFFFFF

def readNumber? (s : List Char) : Option (Nat × List Char) := do
  let s := skipSpaces s
  let n ← Decimal.ofDigits? 10 (s.takeWhile Char.isDigit)
  if n ≤ largestNumber then some (n, skipSpaces (s.dropWhile Char.isDigit)) else none

def readName? (s : List Char) : Option (List Char × List Char) :=
  let s := skipSpaces s
  let name := s.takeWhile Char.isAlpha
  if name.isEmpty then none else some (name, skipSpaces (s.dropWhile Char.isAlpha))

def readSign? (sign : Char) (s : List Char) : Option (List Char) :=
  match s with
  | c :: rest => if c = sign then some rest else none
  | [] => none

def readAll? (sign : Char) (s : List Char) : Option (Span × List Char) :=
  (readSign? sign s).map fun rest => (.all, rest)

def readRange? (s : List Char) : Option (Span × List Char) := do
  let (first, rest) ← readNumber? s
  let rest ← readSign? '-' rest
  let (last, rest) ← readNumber? rest
  return (.range first last, rest)

def readPoint? (s : List Char) : Option (Span × List Char) := do
  let (n, rest) ← readNumber? s
  return (.point n, rest)

def readNamedRange? (s : List Char) : Option (Span × List Char) := do
  let (first, rest) ← readName? s
  let rest ← readSign? '-' rest
  let (last, rest) ← readName? rest
  return (.namedRange first last, rest)

def readSpan? (field : Field) (s : List Char) : Option (Span × List Char) :=
  (if field.allowsAny then readAll? '?' s else none) <|> readAll? '*' s <|> readRange? s <|>
    readPoint? s <|> readNamedRange? s

def readStepped? (field : Field) (s : List Char) : Option (Item × List Char) := do
  let (span, rest) ← readSpan? field s
  let rest ← readSign? '/' rest
  let (step, rest) ← readNumber? rest
  return (.stepped span step, rest)

/-- The longest item in front. A single name has no step. -/
def readItem? (field : Field) (s : List Char) : Option (Item × List Char) :=
  readStepped? field s <|>
    (readSpan? field s).map (fun (span, rest) => (.span span, rest)) <|>
    (readName? s).map fun (name, rest) => (.named name, rest)

/-- The items after a first one, each behind a comma. A comma without an item behind it is left
over. -/
def readMoreItems (field : Field) : Nat → List Char → List Item × List Char
  | 0, s => ([], s)
  | fuel + 1, s =>
    match (readSign? ',' s).bind (readItem? field) with
    | none => ([], s)
    | some (item, rest) =>
      let (items, rest) := readMoreItems field fuel rest
      (item :: items, rest)

/-- A field and what it allows. -/
def readField? (field : Field) (s : List Char) : Option (Numbers × List Char) := do
  let (item, rest) ← readItem? field (skipSpaces s)
  let (items, rest) := readMoreItems field rest.length rest
  let numbers ← field.numbers? (item :: items)
  return (numbers, skipSpaces rest)

/-- Reads a whole text. Without a year, every year is allowed. -/
def readTimetable? (s : List Char) : Option Timetable := do
  let (seconds, s) ← readField? .second s
  let (minutes, s) ← readField? .minute s
  let (hours, s) ← readField? .hour s
  let (daysOfMonth, s) ← readField? .dayOfMonth s
  let (months, s) ← readField? .month s
  let (daysOfWeek, s) ← readField? .dayOfWeek s
  let (years, s) := (readField? .year s).getD (Field.year.allNumbers, s)
  if s.isEmpty then return ⟨seconds, minutes, hours, daysOfMonth, months, daysOfWeek, years⟩
  else none

end CrontabRenderer.Schedule
