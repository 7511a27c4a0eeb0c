import CrontabRenderer.Config.Format
import CrontabRenderer.Redirection.Reader
import CrontabRenderer.Yaml.Document

/-!
# Configurations in YAML

A text is any scalar, whatever its text reads as elsewhere. Aliases stand for their nodes wherever
the configuration looks. Two limits keep the work in bounds: how many collections there are above
one another, and how often aliases are followed.
-/
namespace CrontabRenderer

namespace Yaml

/-- A node, and how many more collections may be above one another from it on. -/
structure Part where
  node : Node
  room : Nat

/-- Reading values from a document. The state counts the aliases that have been followed. -/
abbrev Decode := ReaderT Document (StateT Nat (Except Error))

/-- The number of collections that may be above one another. -/
def deepestNesting : Nat := 128

/-- How often aliases may be followed for every node of a document. -/
def aliasesPerNode : Nat := 100

namespace Decode

def fail {α : Type} (error : ShapeError) : Decode α := throw (.shape error)

/-- The node that a node stands for. -/
def follow (part : Part) : Decode Part :=
  match part.node with
  | .alias target => do
    let document ← read
    let followed ← getModify (· + 1)
    if document.size * aliasesPerNode ≤ followed then throw .tooManyAliases
    match document.target? target with
    | some node => return { part with node := node }
    | none => throw .undefinedAnchor
  | _ => return part

/-- The room inside a collection. -/
def inside (part : Part) : Decode Nat :=
  match part.room with
  | 0 => throw .tooDeep
  | room + 1 => return room

/-- A plain scalar without text stands for an empty collection. -/
def isEmptyPlain (scalar : Scalar) : Bool := scalar.text.isEmpty && scalar.style == .plain

def text (part : Part) : Decode String := do
  match (← follow part).node with
  | .scalar scalar => return scalar.text
  | _ => fail (.unexpected "a string")

def flag (part : Part) : Decode Bool := do
  match (← follow part).node with
  | .scalar scalar =>
    if scalar.style = .plain ∨
        (scalar.style = .literal ∧ scalar.tag = some (.core "bool")) then
      match Value.bool? scalar.text with
      | some value => return value
      | none => fail (.unexpected "a boolean")
    else fail (.unexpected "a boolean")
  | _ => fail (.unexpected "a boolean")

def optional (part : Part) : Decode (Option Part) := do
  let part ← follow part
  match part.node with
  | .scalar scalar =>
    if scalar.style ≠ .plain then return some part
    match scalar.tag with
    | some tag =>
      if tag ≠ .core "null" then return some part
      else if Value.isNullWord scalar.text then return none
      else fail (.unexpected "null")
    | none =>
      if scalar.text.isEmpty ∨ Value.isNullWord scalar.text then return none else return some part
  | _ => return some part

def items (part : Part) : Decode (List Part) := do
  let part ← follow part
  match part.node with
  | .sequence _ items =>
    let room ← inside part
    return items.map fun node => ⟨node, room⟩
  | .scalar scalar => if isEmptyPlain scalar then return [] else fail (.unexpected "a sequence")
  | _ => fail (.unexpected "a sequence")

def members (part : Part) : Decode (List (String × Part)) := do
  let part ← follow part
  match part.node with
  | .mapping _ members =>
    let room ← inside part
    members.mapM fun (key, value) => do return (← text ⟨key, room⟩, ⟨value, room⟩)
  | .scalar scalar => if isEmptyPlain scalar then return [] else fail (.unexpected "a map")
  | _ => fail (.unexpected "a map")

def record (_needed : Nat) (names : List String) (part : Part) :
    Decode (List (String × Part)) := do
  let known := (← members part).filter (·.1 ∈ names)
  match names.find? fun name => 1 < known.countP (·.1 = name) with
  | some name => fail (.repeatedMember name)
  | none => return known

/-- The value of a node where any value may stand. -/
def value : (room : Nat) → Node → Decode Value
  | room, node => do
    match (← follow ⟨node, room⟩).node, room with
    | .scalar scalar, _ => Value.ofScalar scalar
    | .sequence tag items, room + 1 =>
      if tag.any (·.isLocal) then fail (.unexpected "a value without a tag")
      return .sequence (← items.mapM (value room))
    | .mapping tag members, room + 1 =>
      if tag.any (·.isLocal) then fail (.unexpected "a value without a tag")
      return .mapping (← members.mapM fun (key, member) => do
        return (← value room key, ← value room member))
    | _, _ => throw .tooDeep

def option (part : Part) : Decode OptionValue := do
  match ← value part.room part.node with
  | .bool value => return .flag value
  | .integer n => return .number (.integer n.value)
  | .float x => return .number (.float x)
  | .text text => return .text text
  | _ => fail (.unexpected "an option value")

def redirection (part : Part) : Decode Redirection := do
  match Redirection.ofYaml (← value part.room part.node) with
  | .ok redirection => return redirection
  | .error error => fail error

/-- Reads the root of a document. -/
def run {α : Type} (document : Document) (read : Part → Decode α) : Except Error α := do
  let (result, _) ← (read ⟨document.root, deepestNesting⟩ document).run 0
  return result

end Decode

end Yaml

def Redirection.ofYamlText (text : String) : Except Yaml.Error Redirection := do
  (← Yaml.Document.ofText text) |> (Yaml.Decode.run · Yaml.Decode.redirection)

namespace Config

def yamlFormat : Format Yaml.Decode Yaml.Part where
  fail := Yaml.Decode.fail
  text := Yaml.Decode.text
  flag := Yaml.Decode.flag
  option := Yaml.Decode.option
  redirection := Yaml.Decode.redirection
  optional := Yaml.Decode.optional
  items := Yaml.Decode.items
  members := Yaml.Decode.members
  record := Yaml.Decode.record

def ofYamlText (text : String) : Except Yaml.Error Config := do
  let document ← Yaml.Document.ofText text
  Yaml.Decode.run document (yamlFormat.config Yaml.deepestNesting)

end Config

end CrontabRenderer
