import CrontabRenderer.Redirection
import CrontabRenderer.Shape
import CrontabRenderer.Yaml.Value

/-!
# Reading redirections

A redirection is null, a path, or a mapping from streams to paths. Each stream has two names.
-/
namespace CrontabRenderer

inductive OutputStream where
  | standard
  | error
  deriving Repr, DecidableEq

namespace OutputStream

def ofName? (name : String) : Option OutputStream :=
  if name = "standard" ∨ name = "stdout" then some .standard
  else if name = "error" ∨ name = "stderr" then some .error
  else none

end OutputStream

namespace Redirection

/-- The paths of the streams, none of which may be named twice. -/
def ofStreams (paths : List (OutputStream × Option String)) : Except ShapeError Redirection :=
  let path (stream : OutputStream) : Option String := (paths.lookup stream).join
  if 1 < paths.countP (·.1 = .standard) then .error (.repeatedMember "standard")
  else if 1 < paths.countP (·.1 = .error) then .error (.repeatedMember "error")
  else .ok (.split (path .standard) (path .error))

/-- A member of a mapping; one that names no stream is ignored. -/
def jsonMember (name : String) (value : Json) :
    Except ShapeError (Option (OutputStream × Option String)) :=
  match OutputStream.ofName? name with
  | none => .ok none
  | some stream =>
    match value with
    | .null => .ok (some (stream, none))
    | .string path => .ok (some (stream, some path))
    | _ => .error (.unexpected "a string")

def ofJson : Json → Except ShapeError Redirection
  | .null => .ok .inherit
  | .string path => .ok (.combined path)
  | .object members => do
    let paths ← members.mapM fun (name, value) => jsonMember name value
    ofStreams (paths.filterMap id)
  | _ => .error (.unexpected "an output redirection")

/-- The stream that a key stands for: its name, or its place among the streams, which is a number
without a minus sign. -/
def yamlStream (key : Yaml.Value) : Except ShapeError (Option OutputStream) :=
  match key with
  | .text name => .ok (OutputStream.ofName? name)
  | .integer n =>
    if n.negative then .error (.unexpected "a field")
    else if n.magnitude = 0 then .ok (some .standard)
    else if n.magnitude = 1 then .ok (some .error)
    else .ok none
  | _ => .error (.unexpected "a field")

def yamlMember (key value : Yaml.Value) :
    Except ShapeError (Option (OutputStream × Option String)) := do
  match ← yamlStream key with
  | none => return none
  | some stream =>
    match value with
    | .null => return some (stream, none)
    | .text path => return some (stream, some path)
    | _ => throw (.unexpected "a string")

def ofYaml : Yaml.Value → Except ShapeError Redirection
  | .null => .ok .inherit
  | .text path => .ok (.combined path)
  | .mapping members => do
    let paths ← members.mapM fun (key, value) => yamlMember key value
    ofStreams (paths.filterMap id)
  | _ => .error (.unexpected "an output redirection")

end Redirection

end CrontabRenderer
