import CrontabRenderer.Yaml.Scalar.Gap

/-!
# Plain scalars

A scalar without quotation marks ends before a comment, before a colon with a gap behind it, inside
brackets also before the signs of flow collections, and at a line that is not indented enough.
-/
namespace CrontabRenderer.Yaml.Plain

/-- The signs that separate and close flow collections. -/
def isFlowSign (c : Char) : Bool :=
  c == ',' || c == '[' || c == ']' || c == '{' || c == '}'

/-- Moves over characters without a gap among them. -/
def readPart (inFlow : Bool) : Nat → List Char → Cursor → Except Error (List Char × Cursor)
  | 0, done, c => .ok (done.reverse, c)
  | fuel + 1, done, c =>
    match c.here? with
    | none => .ok (done.reverse, c)
    | some ch =>
      if c.gapAhead 0 then .ok (done.reverse, c)
      else if inFlow ∧ ch = ':' ∧ (c.ahead? 1).any (fun next => next == '?' || isFlowSign next) then
        .error .unexpectedCharacter
      else if (ch = ':' ∧ c.gapAhead 1) ∨ (inFlow ∧ isFlowSign ch) then .ok (done.reverse, c)
      else readPart inFlow fuel (ch :: done) (c.advance 1)

/-- Reads on behind a gap. The result tells whether the scalar ended behind a line break. -/
def readParts (inFlow : Bool) (indent : Int) :
    Nat → List Char → Gap → Cursor → Except Error ((String × Bool) × Cursor)
  | 0, done, gap, c => .ok ((.ofList done, gap.hasBreak), c)
  | fuel + 1, done, gap, c => do
    let finish := .ok ((.ofList done, gap.hasBreak), c)
    if c.atDocumentEdge ∨ c.isAt '#' then finish
    else
      let (part, afterPart) ← readPart inFlow c.rest.length [] c
      if part.isEmpty then finish
      else
        let done := done ++ gap.text ++ part
        let (gap, afterGap) ← Gap.read indent afterPart.rest.length .none afterPart
        if !inFlow ∧ (afterGap.column : Int) < indent then
          .ok ((.ofList done, gap.hasBreak), afterGap)
        else readParts inFlow indent fuel done gap afterGap

/-- A plain scalar whose lines behind the first one start at column `indent` or later. -/
def read (inFlow : Bool) (indent : Int) (c : Cursor) :
    Except Error ((String × Bool) × Cursor) :=
  readParts inFlow indent (c.rest.length + 1) [] .none c

end CrontabRenderer.Yaml.Plain
