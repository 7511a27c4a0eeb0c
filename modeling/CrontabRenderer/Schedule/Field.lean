import CrontabRenderer.Decimal.Digits

/-!
# Fields of a time expression

A field of a timetable allows some numbers. It is a list of progressions, each of them every so many
numbers from a first to a last one.
-/
namespace CrontabRenderer.Schedule

inductive Field where
  | second
  | minute
  | hour
  | dayOfMonth
  | month
  /-- Numbered from Sunday at `1`. -/
  | dayOfWeek
  | year
  deriving Repr, DecidableEq

namespace Field

def first : Field → Nat
  | .second | .minute | .hour => 0
  | .dayOfMonth | .month | .dayOfWeek => 1
  | .year => 1970

def last : Field → Nat
  | .second | .minute => 59
  | .hour => 23
  | .dayOfMonth => 31
  | .month => 12
  | .dayOfWeek => 7
  | .year => 2100

def contains (field : Field) (n : Nat) : Bool := field.first ≤ n && n ≤ field.last

/-- The names that stand for numbers, in lower case. -/
def names : Field → List (String × Nat)
  | .month => [
      ("jan", 1), ("january", 1), ("feb", 2), ("february", 2), ("mar", 3), ("march", 3),
      ("apr", 4), ("april", 4), ("may", 5), ("jun", 6), ("june", 6), ("jul", 7), ("july", 7),
      ("aug", 8), ("august", 8), ("sep", 9), ("september", 9), ("oct", 10), ("october", 10),
      ("nov", 11), ("november", 11), ("dec", 12), ("december", 12)]
  | .dayOfWeek => [
      ("sun", 1), ("sunday", 1), ("mon", 2), ("monday", 2), ("tue", 3), ("tues", 3),
      ("tuesday", 3), ("wed", 4), ("wednesday", 4), ("thu", 5), ("thurs", 5), ("thursday", 5),
      ("fri", 6), ("friday", 6), ("sat", 7), ("saturday", 7)]
  | _ => []

/-- The number that a name stands for, in any case of its letters. -/
def ofName? (field : Field) (name : List Char) : Option Nat :=
  field.names.lookup (.ofList (name.map Char.toLower))

/-- A question mark stands for any day. -/
def allowsAny : Field → Bool
  | .dayOfMonth | .dayOfWeek => true
  | _ => false

end Field

/-- Every `step`-th number from `first` to `last`. -/
structure Progression where
  first : Nat
  last : Nat
  step : Nat
  deriving Repr, DecidableEq

def Progression.contains (p : Progression) (n : Nat) : Bool :=
  p.first ≤ n && n ≤ p.last && (n - p.first) % p.step == 0

/-- The numbers that a field allows. -/
abbrev Numbers := List Progression

def Numbers.contain (numbers : Numbers) (n : Nat) : Bool := numbers.any (·.contains n)

/-- A run of numbers as it is written. -/
inductive Span where
  | all
  | point (n : Nat)
  | range (first last : Nat)
  | namedRange (first last : List Char)
  deriving Repr, DecidableEq

/-- An item of a field as it is written. -/
inductive Item where
  | span (span : Span)
  | stepped (span : Span) (step : Nat)
  | named (name : List Char)
  deriving Repr, DecidableEq

namespace Field

/-- A run of numbers that does not go backwards and stays inside the field. -/
def run? (field : Field) (first last step : Nat) : Option Progression :=
  if field.contains first ∧ field.contains last ∧ first ≤ last then some ⟨first, last, step⟩
  else none

def spanNumbers? (field : Field) (step : Nat) : Span → Option Progression
  | .all => field.run? field.first field.last step
  | .point n => field.run? n n step
  | .range first last => field.run? first last step
  | .namedRange first last => do
    field.run? (← field.ofName? first) (← field.ofName? last) step

/-- The numbers of an item. A step after a single number counts on to the end of the field. -/
def itemNumbers? (field : Field) : Item → Option Progression
  | .span span => field.spanNumbers? 1 span
  | .named name => do
    let n ← field.ofName? name
    field.run? n n 1
  | .stepped span step =>
    if 1 ≤ step ∧ step ≤ field.last then
      match span with
      | .point n => field.run? n field.last step
      | span => field.spanNumbers? step span
    else none

def numbers? (field : Field) (items : List Item) : Option Numbers :=
  items.mapM field.itemNumbers?

def allNumbers (field : Field) : Numbers := [⟨field.first, field.last, 1⟩]

end Field

end CrontabRenderer.Schedule
