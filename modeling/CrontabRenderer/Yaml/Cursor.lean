/-!
# Places in a YAML text

A cursor is the rest of a text from some place on, with its distance from the start of the text and
its line and column. Lines end at a carriage return, a line feed, both together, or one of three
Unicode separators.
-/
namespace CrontabRenderer.Yaml

/-- The characters that a text may hold. -/
def isAllowed (c : Char) : Bool :=
  let n := c.toNat
  n == 0x9 || n == 0xA || n == 0xD || (0x20 ≤ n && n ≤ 0x7E) || n == 0x85 ||
    (0xA0 ≤ n && n ≤ 0xD7FF) || (0xE000 ≤ n && n ≤ 0xFFFD) || 0x10000 ≤ n

def isBlank (c : Char) : Bool := c == ' ' || c == '\t'

def isBreak (c : Char) : Bool :=
  c == '\r' || c == '\n' || c == '\u0085' || c == '\u2028' || c == '\u2029'

/-- The characters of anchors, of tag handles and of the names of directives. -/
def isNameChar (c : Char) : Bool := c.isAlphanum || c == '_' || c == '-'

/-- How many octets characters take in UTF-8. -/
def octetCount (s : List Char) : Nat := s.foldl (fun count c => count + c.utf8Size) 0

structure Cursor where
  rest : List Char
  /-- The number of octets before it. -/
  index : Nat
  line : Nat
  /-- The number of characters before it in its line. -/
  column : Nat
  deriving Repr, DecidableEq

namespace Cursor

def ofText (s : List Char) : Cursor := ⟨s, 0, 0, 0⟩

def atEnd (c : Cursor) : Bool := c.rest.isEmpty

/-- The character `n` places ahead. -/
def ahead? (c : Cursor) (n : Nat) : Option Char := c.rest[n]?

def here? (c : Cursor) : Option Char := c.ahead? 0

def isAt (c : Cursor) (mark : Char) : Bool := c.here? == some mark

/-- A character of the class stands here. -/
def isAtAny (c : Cursor) (p : Char → Bool) : Bool := c.here?.any p

/-- Moves over characters of one line. -/
def advance (c : Cursor) (n : Nat) : Cursor :=
  { c with
    rest := c.rest.drop n, index := c.index + octetCount (c.rest.take n), column := c.column + n }

/-- A blank, a line break or the end is `n` places ahead. -/
def gapAhead (c : Cursor) (n : Nat) : Bool :=
  (c.ahead? n).all fun ch => isBlank ch || isBreak ch

/-- A line break or the end is here. -/
def atLineEnd (c : Cursor) : Bool := c.here?.all isBreak

/-- Moves over the characters of a class, none of which is a line break. -/
def takeWhile (c : Cursor) (p : Char → Bool) : List Char × Cursor :=
  let taken := c.rest.takeWhile p
  (taken, c.advance taken.length)

def skipWhile (c : Cursor) (p : Char → Bool) : Cursor := (c.takeWhile p).2

/-- Moves to the start of the next line, if a line break is here. The break counts as a line feed,
but the two Unicode separators of lines and paragraphs stand for themselves. -/
def takeBreak (c : Cursor) : List Char × Cursor :=
  match c.rest with
  | '\r' :: '\n' :: rest => (['\n'], ⟨rest, c.index + 2, c.line + 1, 0⟩)
  | ch :: rest =>
    if isBreak ch then
      ((if ch = '\u2028' ∨ ch = '\u2029' then [ch] else ['\n']),
        ⟨rest, c.index + ch.utf8Size, c.line + 1, 0⟩)
    else ([], c)
  | [] => ([], c)

def skipBreak (c : Cursor) : Cursor := c.takeBreak.2

/-- A byte order mark does not count at the start of a line, but what follows it does not stand
there either. -/
def skipByteOrderMark (c : Cursor) : Cursor :=
  if c.column = 0 ∧ c.isAt '\ufeff' then c.advance 1 else c

/-- A comment reaches to the end of its line. -/
def skipComment (c : Cursor) : Cursor :=
  if c.isAt '#' then c.skipWhile (!isBreak ·) else c

/-- Three such marks stand alone at the start of a line. -/
def atDocumentMark (c : Cursor) (mark : Char) : Bool :=
  c.column == 0 && c.rest.take 3 == [mark, mark, mark] && c.gapAhead 3

/-- A document starts or ends here. -/
def atDocumentEdge (c : Cursor) : Bool := c.atDocumentMark '-' || c.atDocumentMark '.'

end Cursor

end CrontabRenderer.Yaml
