import CrontabRenderer.Job

/-!
# Scopes

A scope holds what is in force for a job: the wrapping template, the job types by name, and the
options set in it. The scope of a block starts with the template and the job types of the scope
around it and with no options, which are looked up outwards instead.
-/
namespace CrontabRenderer

structure Scope where
  jobTemplate : Option String := none
  /-- The template of each job type. -/
  jobTypes : NameMap String := ∅
  /-- The options set in this scope, not those of the scopes around it. -/
  globals : OptionSet := ∅
  deriving Inhabited, BEq

namespace Scope

def setOption (scope : Scope) (name value : String) : Scope :=
  { scope with globals := scope.globals.insert name value }

def setJobTemplate (scope : Scope) (template : Option String) : Scope :=
  { scope with jobTemplate := template }

/-- Defines a job type, in place of one with the same name. -/
def define (scope : Scope) (type : JobType) : Scope :=
  { scope with jobTypes := scope.jobTypes.insert type.name type.template }

def declare (scope : Scope) : Declaration → Scope
  | .set name value => scope.setOption name value
  | .jobTemplate template => scope.setJobTemplate template
  | .jobType type => scope.define type

def declareAll (scope : Scope) (declarations : List Declaration) : Scope :=
  declarations.foldl declare scope

/-- The scope of a block before its declarations. -/
def child (scope : Scope) : Scope := { scope with globals := ∅ }

/-- The wrapping template that runs a command in a login shell. -/
def loginShell : String := "/bin/bash -l -c ':job'"

/-- The stock scope, for the working directory `path`. -/
def stock (path : String) : Scope where
  jobTemplate := some loginShell
  globals := .ofList [
    ("path", path),
    ("environment_variable", "RAILS_ENV"),
    ("environment", "production"),
    ("bundle_command", "bundle exec"),
    ("runner_command", "bin/rails runner"),
    ("output", "")]
  jobTypes := .ofList [
    ("command", ":task :output"),
    ("rake", "cd :path && :environment_variable=:environment :bundle_command rake :task " ++
      "--silent :output"),
    ("script", "cd :path && :environment_variable=:environment :bundle_command script/:task " ++
      ":output"),
    ("runner", "cd :path && :bundle_command :runner_command -e :environment ':task' :output")]

/-- The job types in order of their names. -/
def types (scope : Scope) : List JobType :=
  scope.jobTypes.entries.map fun (name, template) => ⟨name, template⟩

end Scope

/-- The scopes around a job, innermost first. There is always an outermost one. -/
structure ScopeStack where
  current : Scope
  outer : List Scope := []
  deriving Inhabited, BEq

namespace ScopeStack

def depth (stack : ScopeStack) : Nat := stack.outer.length + 1

/-- Opens a block. -/
def enter (stack : ScopeStack) (declarations : List Declaration) : ScopeStack :=
  ⟨stack.current.child.declareAll declarations, stack.current :: stack.outer⟩

/-- Closes the innermost block. The outermost scope is never left. -/
def leave (stack : ScopeStack) : ScopeStack :=
  match stack.outer with
  | [] => stack
  | scope :: outer => ⟨scope, outer⟩

@[simp] theorem leave_enter (stack : ScopeStack) (declarations : List Declaration) :
    (stack.enter declarations).leave = stack := rfl

@[simp] theorem depth_enter (stack : ScopeStack) (declarations : List Declaration) :
    (stack.enter declarations).depth = stack.depth + 1 := rfl

/-- Looks options up in a job's own set, then in the scopes from the innermost outwards. -/
def resolver (stack : ScopeStack) (own : OptionSet) : Resolver :=
  ⟨own, stack.current.globals :: stack.outer.map (·.globals)⟩

/-- The template of the job type with that name. -/
def jobType? (stack : ScopeStack) (name : String) : Option String :=
  stack.current.jobTypes.find? name

end ScopeStack

end CrontabRenderer
