import CrontabRenderer.Config.Format
import CrontabRenderer.Redirection.Reader

/-!
# Configurations in JSON

Texts, truth values and numbers are told apart as JSON tells them apart. A record may also be
written as the array of its members in their order, which may end before the members with a default.
-/
namespace CrontabRenderer

namespace Json

/-- The number of values above one another. -/
def height : Json → Nat
  | .array items => heights items + 1
  | .object members => memberHeights members + 1
  | _ => 1
where
  heights : List Json → Nat
    | [] => 0
    | item :: rest => max (height item) (heights rest)
  memberHeights : List (String × Json) → Nat
    | [] => 0
    | (_, value) :: rest => max (height value) (memberHeights rest)

def text : Json → Except ShapeError String
  | .string text => .ok text
  | _ => .error (.unexpected "a string")

def flag : Json → Except ShapeError Bool
  | .bool value => .ok value
  | _ => .error (.unexpected "a boolean")

def option : Json → Except ShapeError OptionValue
  | .bool value => .ok (.flag value)
  | .number value => .ok (.number value)
  | .string text => .ok (.text text)
  | _ => .error (.unexpected "an option value")

def optional : Json → Except ShapeError (Option Json)
  | .null => .ok none
  | value => .ok (some value)

def items : Json → Except ShapeError (List Json)
  | .array items => .ok items
  | _ => .error (.unexpected "a sequence")

def members : Json → Except ShapeError (List (String × Json))
  | .object members => .ok members
  | _ => .error (.unexpected "a map")

def record (needed : Nat) (names : List String) :
    Json → Except ShapeError (List (String × Json))
  | .object members => .ok (members.filter (·.1 ∈ names))
  | .array items =>
    if needed ≤ items.length ∧ items.length ≤ names.length then .ok (names.zip items)
    else .error .wrongLength
  | _ => .error (.unexpected "a record")

/-- Reads a map from names to texts. -/
def textMap (value : Json) : Except ShapeError (NameMap String) := do
  let members ← (← value.members).mapM fun (name, value) => do return (name, ← value.text)
  return .ofList members

end Json

namespace Config

def jsonFormat : Format (Except ShapeError) Json where
  fail := .error
  text := Json.text
  flag := Json.flag
  option := Json.option
  redirection := Redirection.ofJson
  optional := Json.optional
  items := Json.items
  members := Json.members
  record := Json.record

def ofJson (value : Json) : Except ShapeError Config := jsonFormat.config value.height value

end Config

end CrontabRenderer
