import CrontabRenderer.Text.Blank
import CrontabRenderer.Text.Word

/-!
# Templates

A template is text with placeholders: a colon and a name that is as long as possible. Filling walks
over the template once. What it inserts is never read again, so a value may look like a placeholder.
A value that the template puts between two quotation marks of one kind has such marks escaped.
-/
namespace CrontabRenderer.Template

inductive Piece where
  | literal (c : Char)
  | placeholder (name : String)
  deriving Repr, DecidableEq

/-- The text that a piece stands for in its template. -/
def Piece.source : Piece → List Char
  | .literal c => [c]
  | .placeholder name => ':' :: name.toList

/-- How far a template is read from its right end: the word characters in front, which become a name
if a colon comes before them, and the pieces behind. -/
structure Scan where
  run : List Char
  behind : List Piece

/-- The pieces read so far, if no colon comes before them. -/
def Scan.pieces (scan : Scan) : List Piece := scan.run.map .literal ++ scan.behind

def Scan.extend (c : Char) (scan : Scan) : Scan :=
  if Text.isWordChar c then { scan with run := c :: scan.run }
  else if c = ':' ∧ scan.run ≠ [] then ⟨[], .placeholder (.ofList scan.run) :: scan.behind⟩
  else ⟨[], .literal c :: scan.pieces⟩

def piecesOf (template : List Char) : List Piece :=
  (template.foldr Scan.extend ⟨[], []⟩).pieces

theorem flatMap_source_literal (s : List Char) : (s.map Piece.literal).flatMap Piece.source = s := by
  induction s with
  | nil => rfl
  | cons c rest ih => simp [Piece.source, ih]

theorem source_extend (c : Char) (scan : Scan) :
    (scan.extend c).pieces.flatMap Piece.source = c :: scan.pieces.flatMap Piece.source := by
  obtain ⟨run, behind⟩ := scan
  unfold Scan.extend
  split
  · simp [Scan.pieces, Piece.source]
  · split
    · rename_i h
      obtain ⟨rfl, _⟩ := h
      simp [Scan.pieces, Piece.source, flatMap_source_literal]
    · simp [Scan.pieces, Piece.source]

/-- The pieces of a template are all of its text. -/
theorem flatMap_source_piecesOf (template : List Char) :
    (piecesOf template).flatMap Piece.source = template := by
  induction template with
  | nil => rfl
  | cons c rest ih =>
    rw [piecesOf] at ih
    rw [piecesOf, List.foldr_cons, source_extend, ih]

/-- The names of the placeholders, in order and with repeats. -/
def namesOf (pieces : List Piece) : List String :=
  pieces.filterMap fun
    | .literal _ => none
    | .placeholder name => some name

/-- The names of the placeholders in order of first appearance. -/
def placeholders (template : String) : List String :=
  (namesOf (piecesOf template.toList)).eraseDups

/-- The quotation marks of the shell. -/
inductive Quote where
  | single
  | double
  deriving Repr, DecidableEq

def Quote.mark : Quote → Char
  | .single => '\''
  | .double => '"'

/-- Closes the quotation, writes an escaped mark and opens the quotation again; within double
quotation marks the backslash alone does. -/
def Quote.escapedMark : Quote → List Char
  | .single => ['\'', '\\', '\'', '\'']
  | .double => ['\\', '"']

def Quote.escape (quote : Quote) (value : List Char) : List Char :=
  Text.replaceChar quote.mark quote.escapedMark value

/-- The marks around a placeholder, if the characters on both sides of it are the same mark. -/
def enclosing? (before after : Option Char) : Option Quote :=
  if before = some '\'' ∧ after = some '\'' then some .single
  else if before = some '"' ∧ after = some '"' then some .double
  else none

/-- The first character of a template with these pieces. -/
def firstChar? : List Piece → Option Char
  | [] => none
  | .literal c :: _ => some c
  | .placeholder _ :: _ => some ':'

/-- What stands in the place of a placeholder; one without a value stays as it is. -/
def replacement (quote : Option Quote) (name : String) : Option String → List Char
  | none => ':' :: name.toList
  | some value =>
    match quote with
    | none => value.toList
    | some quote => quote.escape value.toList

/-- A filled template, and the names that were looked up to fill it, in order. -/
structure Filling where
  text : List Char
  requested : List String
  deriving Repr, DecidableEq

/-- The names without a value among those that were looked up. -/
def Filling.unresolved (filling : Filling) (lookup : String → Option String) : List String :=
  filling.requested.filter (lookup · |>.isNone)

/-- Names whose value the job itself gives. They are never looked up. -/
abbrev Reserved := String → Option String

/-- Fills the pieces behind the character `before`. A name ends in a word character, which is no
quotation mark. -/
def fillPieces (reserved : Reserved) (lookup : String → Option String) :
    Option Char → List Piece → Filling
  | _, [] => ⟨[], []⟩
  | _, .literal c :: rest =>
    let filled := fillPieces reserved lookup (some c) rest
    { filled with text := c :: filled.text }
  | before, .placeholder name :: rest =>
    let filled := fillPieces reserved lookup none rest
    let quote := enclosing? before (firstChar? rest)
    match reserved name with
    | some value => { filled with text := replacement quote name (some value) ++ filled.text }
    | none => ⟨replacement quote name (lookup name) ++ filled.text, name :: filled.requested⟩

def filling (reserved : Reserved) (template : String) (lookup : String → Option String) : Filling :=
  fillPieces reserved lookup none (piecesOf template.toList)

/-- The name whose value is the task of the job. -/
def taskName : String := "task"

/-- The name whose value is the whole command of the job, in a wrapping template. -/
def jobName : String := "job"

def taskReserved (task : String) : Reserved := fun name =>
  if name = taskName then some task else none

def jobReserved (job task : String) : Reserved := fun name =>
  if name = jobName then some job else taskReserved task name

/-- Fills the template of a job type. -/
def fill (template task : String) (lookup : String → Option String) : String :=
  .ofList (filling (taskReserved task) template lookup).text

/-- Puts the command of a job into a wrapping template. -/
def wrap (wrapper job task : String) (lookup : String → Option String) : String :=
  .ofList (filling (jobReserved job task) wrapper lookup).text

end CrontabRenderer.Template
