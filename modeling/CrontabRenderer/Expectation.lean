import CrontabRenderer.Render

/-!
# Expectations

What a test asks of the rendering of a job in a scope: one exact command, or that there is none.
-/
namespace CrontabRenderer

inductive ExpectationFailure where
  | otherCommand (command : String)
  /-- A command was expected, but rendering failed. -/
  | failed (job : Job) (error : RenderError)
  /-- A failure was expected, but there is a command. -/
  | rendered (job : Job) (command : String)

/-- The reason, where it takes more than a comparison to see it. -/
def ExpectationFailure.reason? : ExpectationFailure → Option String
  | .otherCommand _ => none
  | .failed job error =>
    some ("Expected " ++ job.describe ++ " to render, but it failed: " ++ error.message)
  | .rendered job command =>
    some ("Expected " ++ job.describe ++ " to fail, but it rendered: " ++ command)

namespace Scope

def expectCommand (base : Scope) (job : Job) (expected : String) :
    Except ExpectationFailure Unit :=
  match base.renderJob job with
  | .ok command => if command = expected then .ok () else .error (.otherCommand command)
  | .error error => .error (.failed job error)

def expectFailure (base : Scope) (job : Job) : Except ExpectationFailure RenderError :=
  match base.renderJob job with
  | .ok command => .error (.rendered job command)
  | .error error => .ok error

theorem expectCommand_iff {base : Scope} {job : Job} {expected : String} :
    base.expectCommand job expected = .ok () ↔ base.renderJob job = .ok expected := by
  unfold expectCommand
  split <;> rename_i h <;> simp [h]

theorem expectFailure_iff {base : Scope} {job : Job} {error : RenderError} :
    base.expectFailure job = .ok error ↔ base.renderJob job = .error error := by
  unfold expectFailure
  split <;> rename_i h <;> simp [h]

end Scope

end CrontabRenderer
