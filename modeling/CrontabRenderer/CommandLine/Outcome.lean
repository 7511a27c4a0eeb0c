import CrontabRenderer.CommandLine.Help
import CrontabRenderer.Crontab
import CrontabRenderer.Json.Printer
import CrontabRenderer.Log
import CrontabRenderer.Plan

/-!
# Outcomes

What the program does with a request: an exit code, the text on its output, lines for the log, and,
where it fails, the reason. A request that fails writes nothing to the output.
-/
namespace CrontabRenderer.CommandLine

structure Outcome where
  code : Nat := 0
  output : String := ""
  log : List LogLine := []
  reason : Option String := none

/-- What the program sees of the machine it runs on. -/
structure Surroundings where
  read : String → Except FileError String
  workingDirectory : String
  now : Instant

namespace Outcome

def success (output : String) : Outcome := { output }

def failure (reason : String) : Outcome := { code := 1, reason := some reason }

def misuse (error : UsageError) : Outcome := { code := 2, reason := some error.message }

/-- The outcome of rendering, which writes all or nothing. -/
def ofRendering : Except RenderError String → Outcome
  | .ok output => success output
  | .error error => failure error.message

end Outcome

def lineText (lines : List String) : String := String.join (lines.map (· ++ "\n"))

/-- The plan of a file. A path that is asked for comes before the working directory. -/
def Surroundings.plan (surroundings : Surroundings) (file : String) (path : Option String) :
    Except ConfigError Plan :=
  Plan.ofFile file (surroundings.read file) (path.getD surroundings.workingDirectory)

namespace Outcome

/-- The crontab, or the entries as a JSON array. -/
def render (plan : Plan) (json : Bool) : Outcome :=
  .ofRendering <|
    if json then
      (plan.base.renderList plan.list).map fun entries =>
        Json.pretty (.array (entries.map RenderedEntry.toJson)) ++ "\n"
    else Crontab.render plan.base plan.list

/-- Whether an entry can be rendered. -/
def validationLine (scope : Scope) (entry : Entry) : LogLine :=
  match scope.renderEntry entry with
  | .ok rendered =>
    ⟨.info, "  - " ++ rendered.expression ++ ": " ++ toString rendered.commands.length ++
      " job(s) OK"⟩
  | .error error => ⟨.error, "  - " ++ entry.schedule.expression ++ ": " ++ error.message⟩

def validate (plan : Plan) (opening : List LogLine) : Outcome :=
  let log := opening ++ plan.list.entries.map (validationLine plan.scope)
  match plan.failures.length with
  | 0 =>
    let closing := "All " ++ toString plan.list.entries.length ++ " entry(ies) are valid"
    { log := log ++ [⟨.info, closing⟩] }
  | count + 1 =>
    { failure (toString (count + 1) ++ " entry(ies) failed to render") with log }

/-- When an entry runs next, if it ever does. -/
def nextRun (now : Instant) (schedule : Schedule) : Except ScheduleError String :=
  if schedule.isReboot then .ok "at boot" else (schedule.nextAfter now).map DateTime.toMinute

def listedEntry (now : Instant) (entry : Entry) : List String :=
  let run := match nextRun now entry.schedule with
    | .ok run => ["  Next run: " ++ run]
    | .error _ => []
  let job (job : Job) := "    - " ++ job.describe ++
    if job.children.isEmpty then "" else " (with nested jobs)"
  ["At: " ++ entry.schedule.expression] ++ run ++ ["  Jobs: " ++ toString entry.jobs.length] ++
    entry.jobs.map job ++ [""]

def listedType (type : JobType) : List String :=
  let options := type.optionNames
  ("  - " ++ type.name ++ ": " ++ type.template) ::
    if options.isEmpty then [] else ["      options: " ++ ", ".intercalate options]

/-- A warning for an entry that never runs again. -/
def idleWarning? (now : Instant) (entry : Entry) : Option LogLine :=
  match nextRun now entry.schedule with
  | .ok _ => none
  | .error error =>
    some ⟨.warning, "  No next run for " ++ entry.schedule.expression ++ ": " ++ error.message⟩

def list (plan : Plan) (file : String) (now : Instant) : Outcome :=
  if plan.list.entries.isEmpty then .success (lineText ["No entries found in " ++ file])
  else
    { output := lineText (["Entries in " ++ file ++ ":", ""] ++
        plan.list.entries.flatMap (listedEntry now) ++ ["Job types:"] ++
        plan.scope.types.flatMap listedType)
      log := plan.list.entries.filterMap (idleWarning? now) }

end Outcome

namespace Request

def outcome (surroundings : Surroundings) : Request → Outcome
  | .render file json path =>
    match surroundings.plan file path with
    | .ok plan => .render plan json
    | .error error => .failure error.message
  | .validate file =>
    let opening : LogLine := ⟨.info, "Validating schedule: " ++ file⟩
    match surroundings.plan file none with
    | .ok plan => .validate plan [opening]
    | .error error =>
      { Outcome.failure error.message with
        log := [opening, ⟨.error, "Validation failed: " ++ error.message⟩] }
  | .list file =>
    match surroundings.plan file none with
    | .ok plan => .list plan file surroundings.now
    | .error error => .failure error.message
  | .help topic => .success topic.page.text
  | .version => .success versionText

end Request

/-- What the program does when it is called with these arguments. -/
def run (surroundings : Surroundings) (arguments : List String) : Outcome :=
  match Request.ofArguments arguments with
  | .ok request => request.outcome surroundings
  | .error error => .misuse error

end CrontabRenderer.CommandLine
