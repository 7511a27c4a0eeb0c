import CrontabRenderer.Redirection
import CrontabRenderer.NameMap

/-!
# Configurations

What a schedule file says: settings for all of its jobs, and entries with jobs that may be nested.
-/
namespace CrontabRenderer

/-- A setting that may be left out, or be taken away by a null. -/
inductive Setting (α : Type) where
  | absent
  | null
  | given (value : α)
  deriving Repr, DecidableEq, Inhabited

inductive OptionValue where
  | flag (value : Bool)
  | number (value : Number)
  | text (value : String)
  deriving Repr, Inhabited

/-- The text that fills placeholders. -/
def OptionValue.toText : OptionValue → String
  | .flag value => if value then "true" else "false"
  | .number value => value.text
  | .text value => value

namespace Config

/-- A job of a configuration. Its wrapping template, job types and options under `set` are for the
jobs nested in it, its own options and its redirection for itself. -/
structure Job where
  type : String
  task : String
  haltOnFailure : Bool
  options : NameMap OptionValue
  output : Setting Redirection
  set : NameMap OptionValue
  jobTemplate : Setting String
  /-- The template of each job type. -/
  jobTypes : NameMap String
  jobs : List Job
  deriving Inhabited

structure Entry where
  expression : String
  jobs : List Job

end Config

structure Config where
  /-- The working directory of the stock job types. -/
  path : Option String
  /-- Start from the stock scope. -/
  defaults : Bool
  jobTemplate : Setting String
  output : Setting Redirection
  set : NameMap OptionValue
  jobTypes : NameMap String
  entries : List Config.Entry

end CrontabRenderer
