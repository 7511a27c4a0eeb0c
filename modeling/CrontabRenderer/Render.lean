import CrontabRenderer.JobList

/-!
# Rendering

A job is rendered to a command: its type's template is filled and squished, then put into the
wrapping template. A nested job is rendered in the scope of the block around it and chained behind
that command. A job with several nested jobs has no command, since they would run in parallel.
-/
namespace CrontabRenderer

inductive RenderError where
  /-- The job has more than one nested job. -/
  | parallelJobs (type task : String) (count : Nat)
  | undefinedJobType (type task : String)
  deriving Repr, DecidableEq

namespace RenderError

def message : RenderError → String
  | .parallelJobs type task count =>
    "parallel jobs are not supported: " ++ type ++ " " ++ Text.quoted task ++ " has " ++
      toString count ++ " nested jobs, only one can be chained"
  | .undefinedJobType type task =>
    "undefined job type '" ++ type ++ "' (task " ++ Text.quoted task ++ ")"

def parallel (job : Job) : RenderError := .parallelJobs job.type job.task job.children.length

def undefined (job : Job) : RenderError := .undefinedJobType job.type job.task

end RenderError

/-- The command of a job without the ones nested in it. -/
def ScopeStack.command (stack : ScopeStack) (job : Job) : Except RenderError String :=
  match stack.jobType? job.type with
  | none => .error (.undefined job)
  | some template =>
    let lookup := (stack.resolver job.options).resolve
    let text := Text.squish (Template.fill template job.task lookup)
    match stack.current.jobTemplate with
    | none => .ok text
    | some wrapper => .ok (Template.wrap wrapper text job.task lookup)

namespace Job

/-- Follows the only child of each job down to the last one. -/
def ensureSingleChain : Job → Except RenderError Unit
  | ⟨_, _, _, _, _, []⟩ => .ok ()
  | ⟨_, _, _, _, _, [child]⟩ => child.ensureSingleChain
  | job => .error (.parallel job)

/-- The command of a job and of the jobs nested in it, with the scopes as rendering leaves them. -/
def compose : Job → ScopeStack → Except RenderError String × ScopeStack
  | job@⟨_, _, _, _, _, []⟩, stack => (stack.command job, stack)
  | job@⟨_, _, _, _, declarations, [child]⟩, stack =>
    match stack.command job with
    | .error e => (.error e, stack)
    | .ok command =>
      let (rest, inner) := child.compose (stack.enter declarations)
      (rest.map (job.operator.join command), inner.leave)
  | job, stack => (stack.command job >>= fun _ => .error (.parallel job), stack)

end Job

/-- The commands of an entry, under its time expression. -/
structure RenderedEntry where
  expression : String
  commands : List String
  deriving Repr, DecidableEq

def RenderedEntry.toJson (entry : RenderedEntry) : Json :=
  .object [("at", .string entry.expression), ("commands", .ofTexts entry.commands)]

namespace Scope

/-- Renders a job in a scope of its own stack. -/
def renderJob (base : Scope) (job : Job) : Except RenderError String := do
  job.ensureSingleChain
  (job.compose ⟨base, []⟩).1

/-- Renders the jobs of an entry, all of which are checked for parallel jobs before. -/
def renderEntry (base : Scope) (entry : Entry) : Except RenderError RenderedEntry := do
  entry.jobs.forM Job.ensureSingleChain
  let commands ← entry.jobs.mapM base.renderJob
  return ⟨entry.schedule.expression, commands⟩

/-- The scope that the entries of a list are rendered in. -/
def forList (base : Scope) (list : JobList) : Scope := base.declareAll list.declarations

/-- Renders the entries of a list up to the first one that fails. -/
def renderList (base : Scope) (list : JobList) : Except RenderError (List RenderedEntry) :=
  list.entries.mapM (base.forList list).renderEntry

end Scope

end CrontabRenderer
