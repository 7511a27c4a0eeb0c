import CrontabRenderer.Proofs.Results
import CrontabRenderer.Render

/-!
# Known job types

Which job types a scope knows by name. Declarations add to them and never take one away
(`Scope.knows_declareAll`), and a job has a command just if its type is known
(`ScopeStack.command_eq_error_iff`).
-/
namespace CrontabRenderer

/-- One of the declarations defines a job type of that name. -/
def Defines (declarations : List Declaration) (name : String) : Prop :=
  ∃ template, Declaration.jobType ⟨name, template⟩ ∈ declarations

namespace Scope

/-- The scope has a job type of that name. -/
def Knows (scope : Scope) (name : String) : Prop :=
  ∃ template, scope.jobTypes.find? name = some template

theorem knows_declare {scope : Scope} {declaration : Declaration} {name : String} :
    (scope.declare declaration).Knows name ↔ scope.Knows name ∨ Defines [declaration] name := by
  cases declaration with
  | set other value => simp [Knows, Defines, declare, setOption]
  | jobTemplate template => simp [Knows, Defines, declare, setJobTemplate]
  | jobType type =>
    obtain ⟨other, template⟩ := type
    simp only [Knows, Defines, declare, define, NameMap.find?_insert, List.mem_singleton,
      Declaration.jobType.injEq, JobType.mk.injEq]
    by_cases hname : name = other
    · simp [hname]
    · simp [hname]

/-- Declarations take no job type away. -/
theorem knows_declareAll {scope : Scope} {declarations : List Declaration} {name : String} :
    (scope.declareAll declarations).Knows name ↔ scope.Knows name ∨ Defines declarations name := by
  induction declarations generalizing scope with
  | nil => simp [declareAll, Defines]
  | cons declaration declarations ih =>
    have hcons : scope.declareAll (declaration :: declarations) =
        (scope.declare declaration).declareAll declarations := rfl
    rw [hcons, ih, knows_declare, or_assoc]
    apply or_congr_right
    simp [Defines, exists_or]

theorem knows_forList {base : Scope} {list : JobList} {name : String} :
    (base.forList list).Knows name ↔ base.Knows name ∨ Defines list.declarations name :=
  knows_declareAll

end Scope

namespace ScopeStack

theorem knows_enter {stack : ScopeStack} {declarations : List Declaration} {name : String} :
    (stack.enter declarations).current.Knows name ↔
      stack.current.Knows name ∨ Defines declarations name :=
  Scope.knows_declareAll

theorem command_eq_error_iff {stack : ScopeStack} {job : Job} {e : RenderError} :
    stack.command job = .error e ↔ ¬stack.current.Knows job.type ∧ e = .undefined job := by
  unfold command
  split
  · rename_i htype
    have hunknown : ¬stack.current.Knows job.type := by
      rintro ⟨template, htemplate⟩
      rw [jobType?, htemplate] at htype
      cases htype
    simp [hunknown, eq_comm]
  · rename_i template htype
    have hknown : stack.current.Knows job.type := ⟨template, htype⟩
    split <;> simp [hknown]

theorem exists_command {stack : ScopeStack} {job : Job} (h : stack.current.Knows job.type) :
    ∃ command, stack.command job = .ok command := by
  refine isOk_iff_not_error.2 ?_
  rintro ⟨e, he⟩
  exact (command_eq_error_iff.1 he).1 h

end ScopeStack

end CrontabRenderer
