import CrontabRenderer.Config.FromYaml
import CrontabRenderer.Config.Validation
import CrontabRenderer.Render

/-!
# Plans

A plan is what a configuration comes to: the list of its jobs, and the scope to render them in. The
settings of a block become declarations: the options, then the wrapping template, then the job
types. A redirection is the value of the option `output`.
-/
namespace CrontabRenderer

namespace Config

/-- The option that a redirection is the value of. -/
def outputName : String := "output"

/-- The option that the working directory is the value of. -/
def pathName : String := "path"

/-- The redirection that a setting asks for, if it is there; a null discards the output. -/
def redirection? : Setting Redirection → Option Redirection
  | .absent => none
  | .null => some .discard
  | .given redirection => some redirection

def optionSet (options : NameMap OptionValue) : OptionSet := options.map OptionValue.toText

def templateDeclarations : Setting String → List Declaration
  | .absent => []
  | .null => [.jobTemplate none]
  | .given template => [.jobTemplate (some template)]

/-- The declarations of a block, names in ascending order. -/
def declarations (set : NameMap OptionValue) (template : Setting String)
    (types : NameMap String) : List Declaration :=
  ((optionSet set).entries.map fun (name, value) => .set name value) ++
    templateDeclarations template ++
    types.entries.map fun (name, template) => .jobType ⟨name, template⟩

namespace Job

/-- A job's redirection takes the place of an option with its name. -/
def ownOptions (options : NameMap OptionValue) (output : Setting Redirection) : OptionSet :=
  match redirection? output with
  | none => optionSet options
  | some redirection => (optionSet options).insert outputName redirection.shell

mutual

def toJob : Job → CrontabRenderer.Job
  | ⟨type, task, haltOnFailure, options, output, set, template, types, jobs⟩ =>
    { type, task, haltOnFailure
      options := ownOptions options output
      declarations := declarations set template types
      children := toJobs jobs }

def toJobs : List Job → List CrontabRenderer.Job
  | [] => []
  | job :: rest => toJob job :: toJobs rest

end

end Job

def Entry.toEntry (entry : Entry) : Except ConfigError CrontabRenderer.Entry := do
  return ⟨← scheduleOf entry.expression, Job.toJobs entry.jobs⟩

/-- The redirection comes first, so that an option named like it counts. -/
def topDeclarations (config : Config) : List Declaration :=
  ((redirection? config.output).map fun redirection =>
      Declaration.set outputName redirection.shell).toList ++
    declarations config.set config.jobTemplate config.jobTypes

end Config

/-- A job list, and the scope that its declarations are made in. -/
structure Plan where
  base : Scope
  list : JobList

namespace Plan

/-- The scope that the entries are rendered in. -/
def scope (plan : Plan) : Scope := plan.base.forList plan.list

/-- The entries that cannot be rendered. -/
def failures (plan : Plan) : List Entry :=
  plan.list.entries.filter fun entry => !(plan.scope.renderEntry entry).toBool

end Plan

namespace Config

/-- The scope of a configuration before its declarations. A path of its own takes the place of
`defaultPath`. -/
def base (config : Config) (defaultPath : String) : Scope :=
  let path := config.path.getD defaultPath
  if config.defaults then .stock path else Scope.setOption {} pathName path

def jobList (config : Config) : Except ConfigError JobList := do
  return ⟨config.topDeclarations, ← config.entries.mapM Entry.toEntry⟩

def plan (config : Config) (defaultPath : String) : Except ConfigError Plan := do
  return ⟨config.base defaultPath, ← config.jobList⟩

/-- Reads the text of a configuration, which is that of a file if one is named, and checks it. -/
def ofText (file : Option String) (text : String) : Except ConfigError Config :=
  match ofYamlText text with
  | .error error => .error (.malformed file error)
  | .ok config => do
    config.validate
    return config

end Config

namespace Plan

/-- The plan of a schedule file with that content. -/
def ofFile (file : String) (content : Except FileError String) (defaultPath : String) :
    Except ConfigError Plan :=
  match content with
  | .error error => .error (.unreadable file error)
  | .ok text => do (← Config.ofText (some file) text).plan defaultPath

end Plan

end CrontabRenderer
