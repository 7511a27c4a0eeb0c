import CrontabRenderer.Json

/-!
# Writing JSON

`compact` writes a value without blanks, `pretty` on lines indented by two spaces. Both write the
members of an object in the order they have.
-/
namespace CrontabRenderer.Json

/-- A quotation mark, a backslash and the control characters are escaped, nothing else. -/
def escapedChar (c : Char) : List Char :=
  match c with
  | '"' => ['\\', '"']
  | '\\' => ['\\', '\\']
  | '\x08' => ['\\', 'b']
  | '\x0c' => ['\\', 'f']
  | '\n' => ['\\', 'n']
  | '\r' => ['\\', 'r']
  | '\t' => ['\\', 't']
  | c =>
    if c.toNat < 0x20 then
      ['\\', 'u', '0', '0'] ++ [Nat.digitChar (c.toNat / 16), Nat.digitChar (c.toNat % 16)]
    else [c]

def stringText (s : String) : String :=
  .ofList (['"'] ++ s.toList.flatMap escapedChar ++ ['"'])

/-- A number that is neither finite nor an integer has no JSON form and is written `null`. -/
def numberText : Number → String
  | .integer value => .ofList (Number.integerText value)
  | .float x => if x.isFinite then .ofList (Number.floatText x) else "null"

mutual

def compact : Json → String
  | .null => "null"
  | .bool value => if value then "true" else "false"
  | .number value => numberText value
  | .string value => stringText value
  | .array items => "[" ++ ",".intercalate (compactItems items) ++ "]"
  | .object members => "\x7b" ++ ",".intercalate (compactMembers members) ++ "\x7d"

def compactItems : List Json → List String
  | [] => []
  | item :: rest => compact item :: compactItems rest

def compactMembers : List (String × Json) → List String
  | [] => []
  | (name, value) :: rest => (stringText name ++ ":" ++ compact value) :: compactMembers rest

end

/-- Items between brackets, each on a line of its own; nothing stands between the brackets of an
empty collection. -/
def block (depth : Nat) (opening : String) (items : List String) (closing : String) : String :=
  if items.isEmpty then opening ++ closing
  else
    let newLine (depth : Nat) := "\n" ++ String.ofList (List.replicate (2 * depth) ' ')
    opening ++ ",".intercalate (items.map (newLine (depth + 1) ++ ·)) ++ newLine depth ++ closing

mutual

def prettyAt (depth : Nat) : Json → String
  | .array items => block depth "[" (prettyItems (depth + 1) items) "]"
  | .object members => block depth "\x7b" (prettyMembers (depth + 1) members) "\x7d"
  | .null => "null"
  | .bool value => if value then "true" else "false"
  | .number value => numberText value
  | .string value => stringText value

def prettyItems (depth : Nat) : List Json → List String
  | [] => []
  | item :: rest => prettyAt depth item :: prettyItems depth rest

def prettyMembers (depth : Nat) : List (String × Json) → List String
  | [] => []
  | (name, value) :: rest =>
    (stringText name ++ ": " ++ prettyAt depth value) :: prettyMembers depth rest

end

def pretty (value : Json) : String := prettyAt 0 value

end CrontabRenderer.Json
