import CrontabRenderer.Decimal.Digits
import CrontabRenderer.Yaml.Scalar.Gap

/-!
# Quoted scalars

Between single quotation marks only the mark itself is escaped, by writing it twice. Between double
quotation marks a backslash escapes single characters, code points and line breaks.
-/
namespace CrontabRenderer.Yaml.Quoted

/-- The character that a backslash and one more character stand for. -/
def simpleEscape? : Char → Option Char
  | '0' => some '\x00'
  | 'a' => some '\x07'
  | 'b' => some '\x08'
  | 't' => some '\t'
  | '\t' => some '\t'
  | 'n' => some '\n'
  | 'v' => some '\x0b'
  | 'f' => some '\x0c'
  | 'r' => some '\r'
  | 'e' => some '\x1b'
  | ' ' => some ' '
  | '"' => some '"'
  | '/' => some '/'
  | '\\' => some '\\'
  | 'N' => some '\u0085'
  | '_' => some '\u00a0'
  | 'L' => some '\u2028'
  | 'P' => some '\u2029'
  | _ => none

/-- How many hexadecimal digits follow a backslash and this character. -/
def codeLength? : Char → Option Nat
  | 'x' => some 2
  | 'u' => some 4
  | 'U' => some 8
  | _ => none

/-- Reads an escape from its backslash on. -/
def readEscape (c : Cursor) : Except Error (Char × Cursor) :=
  match c.ahead? 1 with
  | none => .error .unknownEscape
  | some kind =>
    match simpleEscape? kind, codeLength? kind with
    | some ch, _ => .ok (ch, c.advance 2)
    | none, some length =>
      let c := c.advance 2
      let code := c.rest.take length
      match if code.length = length then Decimal.ofDigits? 16 code else none with
      | some n =>
        if n.isValidChar then .ok (Char.ofNat n, c.advance length) else .error .unknownEscape
      | none => .error .unknownEscape
    | none, none => .error .unknownEscape

/-- Moves over characters without a gap among them, up to the closing mark. An escaped line break
ends them too and is told by the result. -/
def readPart (mark : Char) : Nat → List Char → Cursor → Except Error ((List Char × Bool) × Cursor)
  | 0, done, c => .ok ((done.reverse, false), c)
  | fuel + 1, done, c =>
    match c.here? with
    | none => .ok ((done.reverse, false), c)
    | some ch =>
      if c.gapAhead 0 then .ok ((done.reverse, false), c)
      else if ch = mark then
        if mark = '\'' ∧ c.ahead? 1 = some mark then readPart mark fuel (mark :: done) (c.advance 2)
        else .ok ((done.reverse, false), c)
      else if mark = '"' ∧ ch = '\\' then
        if (c.ahead? 1).any isBreak then .ok ((done.reverse, true), (c.advance 1).skipBreak)
        else
          match readEscape c with
          | .error e => .error e
          | .ok (ch, c) => readPart mark fuel (ch :: done) c
      else readPart mark fuel (ch :: done) (c.advance 1)

def readParts (mark : Char) : Nat → List Char → Cursor → Except Error (String × Cursor)
  | 0, _, _ => .error .openQuotation
  | fuel + 1, done, c => do
    if c.atDocumentEdge then .error .documentMarkInQuotation
    else if c.atEnd then .error .openQuotation
    else
      let ((part, escapedBreak), c) ← readPart mark c.rest.length [] c
      let done := done ++ part
      if c.isAt mark then .ok (.ofList done, c.advance 1)
      else
        -- Behind an escaped line break the gap is dropped as far as it adds no lines.
        let start : Gap := if escapedBreak then ⟨[], some [], []⟩ else .none
        let (gap, c) ← Gap.read 0 c.rest.length start c
        readParts mark fuel (done ++ gap.text) c

/-- Reads a quoted scalar from its opening mark on. -/
def read (mark : Char) (c : Cursor) : Except Error (String × Cursor) :=
  readParts mark (c.rest.length + 1) [] (c.advance 1)

end CrontabRenderer.Yaml.Quoted
