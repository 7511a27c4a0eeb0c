import CrontabRenderer.Number

/-!
# JSON values

The members of an object are in the order of the text that they were read from. A name is looked up
from the front.
-/
namespace CrontabRenderer

inductive Json where
  | null
  | bool (value : Bool)
  | number (value : Number)
  | string (value : String)
  | array (items : List Json)
  | object (members : List (String × Json))
  deriving Inhabited

namespace Json

/-- The value of the first member with a name. -/
def findMember? (name : String) : List (String × Json) → Option Json
  | [] => none
  | member :: rest => if member.1 = name then some member.2 else findMember? name rest

/-- The member of an object; `none` also for any other value. -/
def get? (name : String) : Json → Option Json
  | .object members => findMember? name members
  | _ => none

/-- A text, or `null` where there is none. -/
def ofOptional : Option String → Json
  | none => .null
  | some text => .string text

def ofNat (n : Nat) : Json := .number (.integer n)

def ofTexts (texts : List String) : Json := .array (texts.map .string)

end Json

end CrontabRenderer
