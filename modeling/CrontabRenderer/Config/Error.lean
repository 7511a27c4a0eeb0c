import CrontabRenderer.FileError
import CrontabRenderer.Schedule
import CrontabRenderer.Yaml.Error

/-!
# Faults of configurations
-/
namespace CrontabRenderer

namespace Config

/-- Why a configuration that has been read is not valid. -/
inductive Fault where
  | emptyPath
  | optionName (name : String)
  | jobTypeName (name : String)
  /-- An entry without jobs, with its time expression as it is written. -/
  | noJobs (expression : String)
  | schedule (error : ScheduleError)
  deriving Repr, DecidableEq

def Fault.message : Fault → String
  | .emptyPath => "path cannot be empty"
  | .optionName name => "invalid option name '" ++ name ++ "'"
  | .jobTypeName name => "invalid job type name '" ++ name ++ "'"
  | .noJobs expression => "entry '" ++ expression ++ "' has no jobs"
  | .schedule error => "invalid schedule: " ++ error.message

end Config

/-- Why there is no job list for a configuration. -/
inductive ConfigError where
  | unreadable (file : String) (error : FileError)
  /-- The text, which is that of a file if one is named, is no configuration. -/
  | malformed (file : Option String) (error : Yaml.Error)
  | invalid (fault : Config.Fault)
  /-- A text that has to be there is empty. -/
  | missing (name : String)
  deriving Repr, DecidableEq

def ConfigError.message : ConfigError → String
  | .unreadable file error => "failed to read file '" ++ file ++ "': " ++ error.message
  | .malformed none error => "YAML parse error: " ++ error.message
  | .malformed (some file) error => "YAML parse error in '" ++ file ++ "': " ++ error.message
  | .invalid fault => "invalid configuration: " ++ fault.message
  | .missing name => "missing required field: " ++ name

end CrontabRenderer
