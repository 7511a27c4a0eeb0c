import CrontabRenderer.Config
import CrontabRenderer.Config.Error
import CrontabRenderer.Text.Word

/-!
# Valid configurations

What can be checked of a configuration without its scopes: names, time expressions, and that every
entry has jobs. The first fault counts, in the order of the file's settings and then of its entries;
a job comes before the ones nested in it.
-/
namespace CrontabRenderer.Config

/-- Every option has a word for its name. -/
def checkOptions (options : NameMap OptionValue) : Except ConfigError Unit :=
  match options.names.find? (!Text.isWord ·) with
  | some name => .error (.invalid (.optionName name))
  | none => .ok ()

def checkJobTypeName (name : String) : Except ConfigError Unit :=
  if Text.isWord name then .ok () else .error (.invalid (.jobTypeName name))

def checkJobTypes (types : NameMap String) : Except ConfigError Unit :=
  types.names.forM checkJobTypeName

mutual

def Job.validate : Job → Except ConfigError Unit
  | ⟨type, _, _, options, _, set, _, jobTypes, jobs⟩ => do
    if type.isEmpty then throw (.missing "job")
    checkJobTypeName type
    checkOptions options
    checkOptions set
    checkJobTypes jobTypes
    Job.validateAll jobs

def Job.validateAll : List Job → Except ConfigError Unit
  | [] => .ok ()
  | job :: rest => do
    job.validate
    Job.validateAll rest

end

/-- The schedule of a time expression in a configuration. -/
def scheduleOf (expression : String) : Except ConfigError Schedule :=
  match Schedule.ofText expression with
  | .ok schedule => .ok schedule
  | .error error => .error (.invalid (.schedule error))

def Entry.validate (entry : Entry) : Except ConfigError Unit := do
  if (Text.trim entry.expression).isEmpty then throw (.missing "at")
  let _ ← scheduleOf entry.expression
  if entry.jobs.isEmpty then throw (.invalid (.noJobs entry.expression))
  Job.validateAll entry.jobs

def validate (config : CrontabRenderer.Config) : Except ConfigError Unit := do
  if config.path.any fun path => (Text.trim path).isEmpty then throw (.invalid .emptyPath)
  checkOptions config.set
  checkJobTypes config.jobTypes
  config.entries.forM Entry.validate

end CrontabRenderer.Config
