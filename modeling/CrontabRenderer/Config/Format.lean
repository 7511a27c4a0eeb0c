import CrontabRenderer.Config
import CrontabRenderer.Shape

/-!
# Reading configurations

The shape of a configuration, in terms of what can be asked of a value of any data format. A member
that is not known is ignored, and a known one may be written once.
-/
namespace CrontabRenderer.Config

/-- How values of a data format are read. -/
structure Format (m : Type → Type) (Value : Type) where
  fail : {α : Type} → ShapeError → m α
  text : Value → m String
  flag : Value → m Bool
  option : Value → m OptionValue
  redirection : Value → m Redirection
  /-- Nothing for null. -/
  optional : Value → m (Option Value)
  items : Value → m (List Value)
  /-- The members of a mapping from any names. -/
  members : Value → m (List (String × Value))
  /-- The members of a record with some of these names, of which the first `needed` ones have no
  default. -/
  record : (needed : Nat) → (names : List String) → Value → m (List (String × Value))

namespace Format

variable {m : Type → Type} [Monad m] {Value : Type} (format : Format m Value)

def required {α : Type} (members : List (String × Value)) (name : String)
    (read : Value → m α) : m α :=
  match members.lookup name with
  | some value => read value
  | none => format.fail (.missingMember name)

def orDefault {α : Type} (members : List (String × Value)) (name : String) (default : α)
    (read : Value → m α) : m α :=
  match members.lookup name with
  | some value => read value
  | none => pure default

def setting {α : Type} (members : List (String × Value)) (name : String)
    (read : Value → m α) : m (Setting α) :=
  match members.lookup name with
  | none => pure .absent
  | some value => do
    match ← format.optional value with
    | none => return .null
    | some value => return .given (← read value)

/-- A later member takes the place of an earlier one with the same name. -/
def nameMap {α : Type} (read : Value → m α) (value : Value) : m (NameMap α) := do
  let members ← format.members value
  let values ← members.mapM fun (name, value) => do return (name, ← read value)
  return .ofList values

def jobNames : List String :=
  ["job", "task", "halt_on_failure", "options", "output", "set", "job_template", "job_types",
    "jobs"]

/-- Reads a job with less than `height` jobs above one another. -/
def job : (height : Nat) → Value → m Job
  | 0, _ => format.fail (.unexpected "less nesting")
  | height + 1, value => do
    let members ← format.record 2 jobNames value
    return {
      type := ← format.required members "job" format.text
      task := ← format.required members "task" format.text
      haltOnFailure := ← orDefault members "halt_on_failure" true format.flag
      options := ← orDefault members "options" ∅ (format.nameMap format.option)
      output := ← format.setting members "output" format.redirection
      set := ← orDefault members "set" ∅ (format.nameMap format.option)
      jobTemplate := ← format.setting members "job_template" format.text
      jobTypes := ← orDefault members "job_types" ∅ (format.nameMap format.text)
      jobs := ← orDefault members "jobs" [] fun value => do
        (← format.items value).mapM (job height) }

def entryNames : List String := ["at", "jobs"]

def entry (height : Nat) (value : Value) : m Entry := do
  let members ← format.record 1 entryNames value
  return {
    expression := ← format.required members "at" format.text
    jobs := ← orDefault members "jobs" [] fun value => do
      (← format.items value).mapM (format.job height) }

def configNames : List String :=
  ["path", "defaults", "job_template", "output", "set", "job_types", "every"]

def config (height : Nat) (value : Value) : m Config := do
  let members ← format.record 1 configNames value
  return {
    path := ← orDefault members "path" none fun value => do
      match ← format.optional value with
      | none => return none
      | some value => return some (← format.text value)
    defaults := ← orDefault members "defaults" true format.flag
    jobTemplate := ← format.setting members "job_template" format.text
    output := ← format.setting members "output" format.redirection
    set := ← orDefault members "set" ∅ (format.nameMap format.option)
    jobTypes := ← orDefault members "job_types" ∅ (format.nameMap format.text)
    entries := ← orDefault members "every" [] fun value => do
      (← format.items value).mapM (format.entry height) }

end Format

end CrontabRenderer.Config
