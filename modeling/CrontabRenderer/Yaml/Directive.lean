import CrontabRenderer.Yaml.Cursor
import CrontabRenderer.Yaml.Error
import CrontabRenderer.Yaml.Token

/-!
# Directives, tags and anchors

The tokens that start with `%`, `!`, `&` and `*`.
-/
namespace CrontabRenderer.Yaml

/-- The characters of tags besides those of names. Separators of flow collections are among them
only where the end of the tag is marked. -/
def isTagChar (marked : Bool) (c : Char) : Bool :=
  isNameChar c || c ∈ ";/?:@&=+$.%!~*'()".toList || (marked && (c == ',' || c == '[' || c == ']'))

/-- Reads the part of a tag behind its handle, which may lack unless it is needed. -/
def readTagPart (marked needed : Bool) (c : Cursor) : Except Error (Tag × Cursor) :=
  let (written, c) := c.takeWhile (isTagChar marked)
  match if needed ∧ written.isEmpty then none else Tag.ofWritten? written with
  | some tag => .ok (tag, c)
  | none => .error .badTag

/-- Reads what may be a handle: a mark, a name and perhaps another mark. -/
def readHandle (c : Cursor) : Except Error (String × Cursor) :=
  if !c.isAt '!' then .error .badTag
  else
    let (name, c) := (c.advance 1).takeWhile isNameChar
    if c.isAt '!' then .ok (.ofList ('!' :: name ++ ['!']), c.advance 1)
    else .ok (.ofList ('!' :: name), c)

def endsInMark (handle : String) : Bool := handle.toList.getLast? == some '!'

/-- A handle that is more than a single mark. -/
def isNamedHandle (handle : String) : Bool := endsInMark handle && handle.toList.length ≠ 1

/-- Reads a tag from its mark on. A tag ends at a gap, in flow collections also at a comma. -/
def readTag (inFlow : Bool) (c : Cursor) : Except Error (Token × Cursor) := do
  let (token, c) ←
    if c.ahead? 1 = some '<' then
      let (suffix, c) ← readTagPart true true (c.advance 2)
      if !c.isAt '>' then .error .badTag else .ok (Token.tag "" suffix, c.advance 1)
    else do
      let (handle, afterHandle) ← readHandle c
      if isNamedHandle handle then
        let (suffix, c) ← readTagPart false true afterHandle
        .ok (Token.tag handle suffix, c)
      else
        let (behind, c) ← readTagPart false false afterHandle
        let suffix := Tag.ofAscii (handle.toList.drop 1) ++ behind
        -- A mark alone is a tag without a handle.
        .ok (if suffix.isEmpty then Token.tag "" .mark else Token.tag "!" suffix, c)
  if c.gapAhead 0 ∨ (inFlow ∧ c.isAt ',') then .ok (token, c) else .error .badTag

/-- Reads the name of an anchor or of an alias from its sign on. -/
def readAnchor (c : Cursor) : Except Error (String × Cursor) :=
  let (name, c) := (c.advance 1).takeWhile isNameChar
  if name.isEmpty then .error .badAnchor
  else if c.gapAhead 0 ∨ c.isAtAny (· ∈ "?:,]\x7d%@\x60".toList) then .ok (.ofList name, c)
  else .error .badAnchor

/-- A number of at most nine digits. -/
def readVersionNumber (c : Cursor) : Except Error (Nat × Cursor) :=
  let (digits, c) := c.takeWhile Char.isDigit
  match if digits.length ≤ 9 then Decimal.ofDigits? 10 digits else none with
  | some n => .ok (n, c)
  | none => .error .badDirective

/-- Reads a directive from its sign on, with the whole of its line. -/
def readDirective (c : Cursor) : Except Error (Token × Cursor) := do
  let (name, c) := (c.advance 1).takeWhile isNameChar
  if !c.gapAhead 0 then .error .badDirective
  else
    let (token, c) ←
      if name = "YAML".toList then do
        let (major, c) ← readVersionNumber (c.skipWhile isBlank)
        if !c.isAt '.' then .error .badDirective
        else
          let (minor, c) ← readVersionNumber (c.advance 1)
          .ok (Token.version major minor, c)
      else if name = "TAG".toList then do
        let (handle, c) ← readHandle (c.skipWhile isBlank)
        if !endsInMark handle ∨ !c.isAtAny isBlank then .error .badDirective
        else
          let (expansion, c) ← readTagPart true true (c.skipWhile isBlank)
          if !c.gapAhead 0 then .error .badDirective
          else .ok (Token.tagHandle handle expansion, c)
      else .error .badDirective
    let c := (c.skipWhile isBlank).skipComment
    if c.atLineEnd then .ok (token, c.skipBreak) else .error .badDirective

end CrontabRenderer.Yaml
