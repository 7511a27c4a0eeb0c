import CrontabRenderer.Config

/-!
# Writing configurations as JSON

Every member is written. A setting that is left out is written as null, like one taken away.
-/
namespace CrontabRenderer

def Setting.toJson {α : Type} (write : α → Json) : Setting α → Json
  | .absent => .null
  | .null => .null
  | .given value => write value

def NameMap.toJson {α : Type} (write : α → Json) (map : NameMap α) : Json :=
  .object (map.entries.map fun (name, value) => (name, write value))

def OptionValue.toJson : OptionValue → Json
  | .flag value => .bool value
  | .number (.integer value) => .number (.integer value)
  | .number (.float x) => if x.isFinite then .number (.float x) else .null
  | .text value => .string value

namespace Config

mutual

def Job.toJson : Job → Json
  | ⟨type, task, haltOnFailure, options, output, set, jobTemplate, jobTypes, jobs⟩ =>
    .object [
      ("job", .string type),
      ("task", .string task),
      ("halt_on_failure", .bool haltOnFailure),
      ("options", options.toJson OptionValue.toJson),
      ("output", output.toJson Redirection.toJson),
      ("set", set.toJson OptionValue.toJson),
      ("job_template", jobTemplate.toJson .string),
      ("job_types", jobTypes.toJson .string),
      ("jobs", .array (Job.listToJson jobs))]

def Job.listToJson : List Job → List Json
  | [] => []
  | job :: rest => job.toJson :: Job.listToJson rest

end

def Entry.toJson (entry : Entry) : Json :=
  .object [
    ("at", .string entry.expression),
    ("jobs", .array (Job.listToJson entry.jobs))]

end Config

def Config.toJson (config : Config) : Json :=
  .object [
    ("path", .ofOptional config.path),
    ("defaults", .bool config.defaults),
    ("job_template", config.jobTemplate.toJson .string),
    ("output", config.output.toJson Redirection.toJson),
    ("set", config.set.toJson OptionValue.toJson),
    ("job_types", config.jobTypes.toJson .string),
    ("every", .array (config.entries.map Config.Entry.toJson))]

end CrontabRenderer
