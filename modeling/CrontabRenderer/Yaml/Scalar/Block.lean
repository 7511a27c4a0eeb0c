import CrontabRenderer.Yaml.Cursor
import CrontabRenderer.Yaml.Error

/-!
# Block scalars

A header with `|` or `>` and then indented lines. Behind `|` line breaks stay; behind `>` a break
between two lines that do not start with a blank becomes a space. The header may tell the
indentation and what becomes of the line breaks at the end.
-/
namespace CrontabRenderer.Yaml.Block

/-- What becomes of the line breaks at the end. -/
inductive Chomping where
  /-- The first one stays. -/
  | clip
  /-- None stays. -/
  | strip
  /-- All stay. -/
  | keep
  deriving Repr, DecidableEq

structure Header where
  chomping : Chomping
  /-- By how much the lines are indented, if it is told. -/
  indentation : Option Nat
  deriving Repr, DecidableEq

def chomping? : Char → Option Chomping
  | '+' => some .keep
  | '-' => some .strip
  | _ => none

/-- A digit of the header; zero is refused. -/
def readIndentation (c : Cursor) : Except Error (Option Nat × Cursor) :=
  match c.here? with
  | some ch =>
    if ch = '0' then .error .badBlockHeader
    else if ch.isDigit then .ok (some (ch.toNat - '0'.toNat), c.advance 1)
    else .ok (none, c)
  | none => .ok (none, c)

def readChomping (c : Cursor) : Option Chomping × Cursor :=
  match c.here?.bind chomping? with
  | some chomping => (some chomping, c.advance 1)
  | none => (none, c)

/-- Reads the header from behind its first sign up to the next line. Its two parts stand in any
order. -/
def readHeader (c : Cursor) : Except Error (Header × Cursor) := do
  let (before, c) := readChomping c
  let (indentation, c) ← readIndentation c
  let (behind, c) := if before.isNone ∧ indentation.isSome then readChomping c else (none, c)
  let c := (c.skipWhile isBlank).skipComment
  if c.atLineEnd then .ok (⟨(before.or behind).getD .clip, indentation⟩, c.skipBreak)
  else .error .badBlockHeader

/-- Moves over empty lines to column `indent` of the next line that has text there. Without an
indentation the first line that is not empty tells it: the result holds the line breaks and the
largest column reached. -/
def readEmptyLines (indent : Option Nat) :
    Nat → Nat → List Char → Cursor → Except Error ((List Char × Nat) × Cursor)
  | 0, widest, breaks, c => .ok ((breaks, widest), c)
  | fuel + 1, widest, breaks, c =>
    let isIndentation (c : Cursor) : Bool := indent.all (c.column < ·)
    let spaces := c.rest.takeWhile (· == ' ')
    let count := match indent with
      | none => spaces.length
      | some indent => min spaces.length (indent - c.column)
    let c := c.advance count
    let widest := max widest c.column
    if isIndentation c ∧ c.isAt '\t' then .error .tabInIndentation
    else if c.isAtAny isBreak then
      let (lineBreak, c) := c.takeBreak
      readEmptyLines indent fuel widest (breaks ++ lineBreak) c
    else .ok ((breaks, widest), c)

/-- The lines read so far. -/
structure Lines where
  text : List Char
  /-- The break behind the last line. -/
  lastBreak : List Char
  /-- The breaks of the empty lines behind it. -/
  emptyLines : List Char
  /-- The last line starts with a blank. -/
  startsBlank : Bool
  deriving Repr, DecidableEq

/-- The text so far and the breaks before a next line, which is folded to it if it may be. -/
def Lines.joined (lines : Lines) (folds startsBlank : Bool) : List Char :=
  if folds && lines.lastBreak == ['\n'] && !lines.startsBlank && !startsBlank then
    lines.text ++ (if lines.emptyLines.isEmpty then [' '] else lines.emptyLines)
  else lines.text ++ lines.lastBreak ++ lines.emptyLines

def readLines (folds : Bool) (indent : Nat) :
    Nat → Lines → Cursor → Except Error (Lines × Cursor)
  | 0, lines, c => .ok (lines, c)
  | fuel + 1, lines, c => do
    if c.column = indent ∧ !c.atEnd then
      let startsBlank := c.isAtAny isBlank
      let text := lines.joined folds startsBlank
      let (line, c) := c.takeWhile (!isBreak ·)
      let (lastBreak, c) := c.takeBreak
      let ((emptyLines, _), c) ← readEmptyLines (some indent) (c.rest.length + 1) 0 [] c
      readLines folds indent fuel ⟨text ++ line, lastBreak, emptyLines, startsBlank⟩ c
    else .ok (lines, c)

/-- The text with the breaks at its end chomped. -/
def Lines.chomped (lines : Lines) : Chomping → List Char
  | .strip => lines.text
  | .clip => lines.text ++ lines.lastBreak
  | .keep => lines.text ++ lines.lastBreak ++ lines.emptyLines

/-- Reads a block scalar from its first sign on, inside a collection indented by `outer`, which is
negative outside all collections. -/
def read (folds : Bool) (outer : Int) (c : Cursor) : Except Error (String × Cursor) := do
  let (header, c) ← readHeader (c.advance 1)
  let told : Option Nat := header.indentation.map fun n => (max outer 0).toNat + n
  let ((emptyLines, widest), c) ← readEmptyLines told (c.rest.length + 1) 0 [] c
  let indent := told.getD (max widest (max (outer + 1) 1).toNat)
  let (lines, c) ← readLines folds indent (c.rest.length + 1) ⟨[], [], emptyLines, false⟩ c
  .ok (.ofList (lines.chomped header.chomping), c)

end CrontabRenderer.Yaml.Block
