import CrontabRenderer.Json
import CrontabRenderer.Options
import CrontabRenderer.Template
import CrontabRenderer.Text.Quoted

/-!
# Jobs

A job type names a template. A job calls a job type with a task and options of its own, and may open
a block: declarations, and the jobs nested in their scope.
-/
namespace CrontabRenderer

structure JobType where
  name : String
  template : String
  deriving Repr, DecidableEq

namespace JobType

/-- The options that the template asks for, in order of first appearance. -/
def optionNames (type : JobType) : List String :=
  (Template.placeholders type.template).filter fun name =>
    name ≠ Template.taskName ∧ name ≠ Template.jobName

def toJson (type : JobType) : Json :=
  .object [("name", .string type.name), ("template", .string type.template)]

end JobType

/-- A change of the scope that the jobs after it are rendered in. -/
inductive Declaration where
  | set (name value : String)
  /-- Changes the wrapping template; without one, commands are not wrapped. -/
  | jobTemplate (template : Option String)
  | jobType (type : JobType)
  deriving Repr, DecidableEq

/-- What stands between two commands of a chain. -/
inductive JoinOperator where
  /-- The next command runs if the one before succeeded. -/
  | and
  /-- The next command runs in any case. -/
  | sequence
  deriving Repr, DecidableEq

namespace JoinOperator

def sign : JoinOperator → String
  | .and => "&&"
  | .sequence => ";"

def toJson : JoinOperator → Json
  | .and => .string "And"
  | .sequence => .string "Sequence"

/-- Puts two commands on one line. -/
def join (operator : JoinOperator) (left right : String) : String :=
  left ++ " " ++ operator.sign ++ " " ++ right

end JoinOperator

/-- A call of a job type. The declarations are for the scope of the children. -/
structure Job where
  type : String
  task : String
  options : OptionSet := ∅
  /-- A failure of this job stops the ones chained after it. -/
  haltOnFailure : Bool := true
  declarations : List Declaration := []
  children : List Job := []
  deriving Inhabited

namespace Job

def operator (job : Job) : JoinOperator :=
  if job.haltOnFailure then .and else .sequence

/-- A job as messages name it. -/
def describe (job : Job) : String := job.type ++ " " ++ Text.quoted job.task

end Job

end CrontabRenderer
