import CrontabRenderer.Config
import Mathlib.Tactic.Common

/-!
# Trees of configured jobs

A job of a configuration may have others nested in it, to any depth (`Config.Job.Contains`).
`Config.Job.preorder` lists them, each job before the ones nested in it.
-/
namespace CrontabRenderer.Config.Job

/-- What passes from the nested jobs to the job around them holds of every job. -/
@[elab_as_elim]
theorem treeInduction {motive : Job → Prop}
    (step : ∀ job, (∀ child ∈ job.jobs, motive child) → motive job) (job : Job) : motive job := by
  refine @Job.rec motive (fun jobs => ∀ child ∈ jobs, motive child) ?_ ?_ ?_ job
  · intro type task haltOnFailure options output set jobTemplate jobTypes jobs ih
    exact step _ ih
  · exact fun child hchild => by cases hchild
  · exact fun first rest hfirst hrest => List.forall_mem_cons.2 ⟨hfirst, hrest⟩

/-- The tree of a job holds a job: itself, or one in the tree of a job nested in it. -/
inductive Contains : Job → Job → Prop
  | root (job : Job) : job.Contains job
  | nested {job child node : Job} (hchild : child ∈ job.jobs) (hnode : child.Contains node) :
      job.Contains node

theorem forall_contains_iff {p : Job → Prop} {job : Job} :
    (∀ node, job.Contains node → p node) ↔
      p job ∧ ∀ child ∈ job.jobs, ∀ node, child.Contains node → p node := by
  constructor
  · intro h
    exact ⟨h job (.root job), fun child hchild node hnode => h node (.nested hchild hnode)⟩
  · rintro ⟨hjob, hchildren⟩ node hnode
    cases hnode with
    | root => exact hjob
    | nested hchild hnode => exact hchildren _ hchild node hnode

mutual

/-- The jobs of a tree. Each comes before the ones nested in it, and these in their order. -/
def preorder : Job → List Job
  | ⟨type, task, haltOnFailure, options, output, set, jobTemplate, jobTypes, jobs⟩ =>
    ⟨type, task, haltOnFailure, options, output, set, jobTemplate, jobTypes, jobs⟩ ::
      preorderAll jobs

def preorderAll : List Job → List Job
  | [] => []
  | job :: rest => preorder job ++ preorderAll rest

end

theorem preorderAll_eq_flatMap (jobs : List Job) : preorderAll jobs = jobs.flatMap preorder := by
  induction jobs with
  | nil => rfl
  | cons job rest ih => rw [preorderAll, ih, List.flatMap_cons]

theorem preorder_eq (job : Job) : job.preorder = job :: job.jobs.flatMap preorder := by
  rw [← preorderAll_eq_flatMap]
  cases job
  rfl

theorem mem_preorder {job node : Job} : node ∈ job.preorder ↔ job.Contains node := by
  induction job using treeInduction with
  | step job ih =>
    rw [preorder_eq, List.mem_cons, List.mem_flatMap]
    constructor
    · rintro (rfl | ⟨child, hchild, hnode⟩)
      · exact .root node
      · exact .nested hchild ((ih child hchild).1 hnode)
    · intro h
      cases h with
      | root => exact .inl rfl
      | nested hchild hnode => exact .inr ⟨_, hchild, (ih _ hchild).2 hnode⟩

end CrontabRenderer.Config.Job
