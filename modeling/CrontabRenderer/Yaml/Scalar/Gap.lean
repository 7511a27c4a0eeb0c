import CrontabRenderer.Yaml.Cursor
import CrontabRenderer.Yaml.Error

/-!
# Gaps inside scalars

The blanks and line breaks between two parts of a scalar. Blanks on one line are kept. A single line
break becomes a space, further ones stay, and the blanks around them are dropped.
-/
namespace CrontabRenderer.Yaml

structure Gap where
  /-- The blanks before the first line break. -/
  blanks : List Char
  firstBreak : Option (List Char)
  moreBreaks : List Char
  deriving Repr, DecidableEq

namespace Gap

def none : Gap := ⟨[], .none, []⟩

/-- A line break has been passed, by itself or at the end of an escaped line. -/
def hasBreak (gap : Gap) : Bool := gap.firstBreak.isSome

/-- What the gap adds to the text of the scalar. -/
def text (gap : Gap) : List Char :=
  match gap.firstBreak with
  | .none => gap.blanks
  | some first =>
    if first = ['\n'] then if gap.moreBreaks.isEmpty then [' '] else gap.moreBreaks
    else first ++ gap.moreBreaks

/-- Moves over a gap. A tab left of column `indent` behind a line break is refused. -/
def read (indent : Int) : Nat → Gap → Cursor → Except Error (Gap × Cursor)
  | 0, gap, c => .ok (gap, c)
  | fuel + 1, gap, c =>
    if c.isAtAny isBlank then
      if gap.hasBreak then
        if c.isAt '\t' ∧ (c.column : Int) < indent then .error .tabInIndentation
        else read indent fuel gap (c.advance 1)
      else read indent fuel { gap with blanks := gap.blanks ++ c.rest.take 1 } (c.advance 1)
    else if c.isAtAny isBreak then
      let (lineBreak, c) := c.takeBreak
      match gap.firstBreak with
      | .none => read indent fuel ⟨[], some lineBreak, []⟩ c
      | some _ => read indent fuel { gap with moreBreaks := gap.moreBreaks ++ lineBreak } c
    else .ok (gap, c)

end Gap

end CrontabRenderer.Yaml
