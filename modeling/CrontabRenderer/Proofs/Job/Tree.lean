import CrontabRenderer.Render
import Mathlib.Tactic.Common

/-!
# Trees of jobs

The jobs nested in a job, at any depth (`Job.Contains`). Above a job that is the topmost one with a
property there is no other job with it (`Job.IsTopmost`), and there is one if any job of the tree
has the property (`Job.exists_isTopmost`).
-/
namespace CrontabRenderer.Job

/-- The tree of a job holds a job, under the ancestors from the root of the tree on. -/
inductive Contains : Job → List Job → Job → Prop
  | root (job : Job) : job.Contains [] job
  | nested {job child node : Job} {ancestors : List Job} (hchild : child ∈ job.children)
      (hnode : child.Contains ancestors node) : job.Contains (job :: ancestors) node

/-- More than one job is nested in the job. -/
def Branches (job : Job) : Prop := 1 < job.children.length

instance (job : Job) : Decidable job.Branches := inferInstanceAs (Decidable (1 < _))

/-- Rendering follows a tree as far as it is a chain: to a job without children, or to one that
branches. -/
@[elab_as_elim]
theorem chainInduction {motive : Job → Prop} (leaf : ∀ job, job.children = [] → motive job)
    (link : ∀ job child, job.children = [child] → motive child → motive job)
    (branch : ∀ job, job.Branches → motive job) : ∀ job, motive job
  | ⟨_, _, _, _, _, []⟩ => leaf _ rfl
  | ⟨_, _, _, _, _, [child]⟩ => link _ child rfl (chainInduction leaf link branch child)
  | ⟨_, _, _, _, _, _ :: _ :: _⟩ => branch _ (by simp [Branches])

section Equations

variable {job child : Job} (stack : ScopeStack)

theorem ensureSingleChain_of_leaf (h : job.children = []) : job.ensureSingleChain = .ok () := by
  obtain ⟨type, task, options, halt, declarations, children⟩ := job
  subst h
  rfl

theorem ensureSingleChain_of_link (h : job.children = [child]) :
    job.ensureSingleChain = child.ensureSingleChain := by
  obtain ⟨type, task, options, halt, declarations, children⟩ := job
  subst h
  rfl

theorem ensureSingleChain_of_branches (h : job.Branches) :
    job.ensureSingleChain = .error (.parallel job) := by
  obtain ⟨type, task, options, halt, declarations, children⟩ := job
  match children, h with
  | first :: second :: rest, _ => rfl

theorem compose_of_leaf (h : job.children = []) : (job.compose stack).1 = stack.command job := by
  obtain ⟨type, task, options, halt, declarations, children⟩ := job
  subst h
  rfl

theorem compose_of_link (h : job.children = [child]) :
    (job.compose stack).1 = (stack.command job).bind fun command =>
      ((child.compose (stack.enter job.declarations)).1).map (job.operator.join command) := by
  obtain ⟨type, task, options, halt, declarations, children⟩ := job
  subst h
  rw [compose]
  cases stack.command _ <;> rfl

theorem compose_of_branches (h : job.Branches) :
    (job.compose stack).1 = (stack.command job).bind fun _ => .error (.parallel job) := by
  obtain ⟨type, task, options, halt, declarations, children⟩ := job
  match children, h with
  | first :: second :: rest, _ => rfl

end Equations

/-- A job of the tree with a property that no job above it has. The property may look at the
ancestors. -/
structure IsTopmost (p : List Job → Job → Prop) (root : Job) (ancestors : List Job)
    (node : Job) : Prop where
  contains : root.Contains ancestors node
  holds : p ancestors node
  above : ∀ before ancestor after, ancestors = before ++ ancestor :: after → ¬p before ancestor

variable {p : List Job → Job → Prop} {root node : Job} {ancestors : List Job}

theorem isTopmost_root (h : p [] root) : root.IsTopmost p [] root :=
  ⟨.root root, h, fun before ancestor after hsplit => by simp at hsplit⟩

theorem Contains.ancestor {before after : List Job} {ancestor : Job}
    (h : root.Contains (before ++ ancestor :: after) node) : root.Contains before ancestor := by
  induction before generalizing root with
  | nil =>
    cases h
    exact .root _
  | cons first before ih =>
    cases h with
    | nested hchild hnode => exact .nested hchild (ih hnode)

theorem isTopmost_congr {q : List Job → Job → Prop}
    (h : ∀ ancestors node, root.Contains ancestors node → (p ancestors node ↔ q ancestors node)) :
    root.IsTopmost p ancestors node ↔ root.IsTopmost q ancestors node := by
  constructor
  · rintro ⟨hcontains, hholds, habove⟩
    refine ⟨hcontains, (h _ _ hcontains).1 hholds, ?_⟩
    rintro before ancestor after rfl
    exact mt (h _ _ hcontains.ancestor).2 (habove before ancestor after rfl)
  · rintro ⟨hcontains, hholds, habove⟩
    refine ⟨hcontains, (h _ _ hcontains).2 hholds, ?_⟩
    rintro before ancestor after rfl
    exact mt (h _ _ hcontains.ancestor).1 (habove before ancestor after rfl)

/-- The root is the topmost job if it has the property; otherwise the topmost one is that of a
child. -/
theorem isTopmost_iff : root.IsTopmost p ancestors node ↔
    (p [] root ∧ ancestors = [] ∧ node = root) ∨
    (¬p [] root ∧ ∃ child ∈ root.children, ∃ inner, ancestors = root :: inner ∧
      child.IsTopmost (fun above => p (root :: above)) inner node) := by
  constructor
  · rintro ⟨hcontains, hholds, habove⟩
    cases hcontains with
    | root => exact .inl ⟨hholds, rfl, rfl⟩
    | nested hchild hnode =>
      refine .inr ⟨habove [] root _ rfl, _, hchild, _, rfl, hnode, hholds, ?_⟩
      rintro before ancestor after rfl
      exact habove (root :: before) ancestor after rfl
  · rintro (⟨hroot, rfl, rfl⟩ | ⟨hroot, child, hchild, inner, rfl, hcontains, hholds, habove⟩)
    · exact isTopmost_root hroot
    · refine ⟨.nested hchild hcontains, hholds, fun before ancestor after hsplit => ?_⟩
      cases before with
      | nil =>
        cases hsplit
        exact hroot
      | cons first before =>
        cases hsplit
        exact habove before ancestor after rfl

section Search

variable {q : List Job → Job → Prop}

/-! Where the search for the topmost job goes from a root, as far as the root is no branch. -/

theorem topmost_iff_of_root (hroot : p [] root) :
    (∃ ancestors node, root.IsTopmost p ancestors node ∧ q ancestors node) ↔ q [] root := by
  constructor
  · rintro ⟨ancestors, node, htop, hq⟩
    rcases isTopmost_iff.1 htop with ⟨-, rfl, rfl⟩ | ⟨hnot, -⟩
    · exact hq
    · exact absurd hroot hnot
  · exact fun hq => ⟨[], root, isTopmost_root hroot, hq⟩

theorem not_topmost_of_childless (hroot : ¬p [] root) (hchildren : root.children = []) :
    ¬∃ ancestors node, root.IsTopmost p ancestors node ∧ q ancestors node := by
  rintro ⟨ancestors, node, htop, -⟩
  rcases isTopmost_iff.1 htop with ⟨hp, -⟩ | ⟨-, child, hchild, -⟩
  · exact hroot hp
  · simp [hchildren] at hchild

theorem topmost_iff_of_only_child {child : Job} (hroot : ¬p [] root)
    (hchildren : root.children = [child]) :
    (∃ ancestors node, root.IsTopmost p ancestors node ∧ q ancestors node) ↔
      ∃ ancestors node, child.IsTopmost (fun above => p (root :: above)) ancestors node ∧
        q (root :: ancestors) node := by
  constructor
  · rintro ⟨ancestors, node, htop, hq⟩
    rcases isTopmost_iff.1 htop with ⟨hp, -⟩ | ⟨-, other, hother, inner, rfl, hinner⟩
    · exact absurd hp hroot
    · obtain rfl : other = child := by simpa [hchildren] using hother
      exact ⟨inner, node, hinner, hq⟩
  · rintro ⟨inner, node, htop, hq⟩
    have hchild : child ∈ root.children := by simp [hchildren]
    exact ⟨root :: inner, node, isTopmost_iff.2 (.inr ⟨hroot, child, hchild, inner, rfl, htop⟩), hq⟩

end Search

/-- A tree with a job of the property has a topmost one. -/
theorem exists_isTopmost (hcontains : root.Contains ancestors node) (hholds : p ancestors node) :
    ∃ ancestors node, root.IsTopmost p ancestors node := by
  induction hcontains generalizing p with
  | root => exact ⟨[], _, isTopmost_root hholds⟩
  | @nested root child node inner hchild _ ih =>
    by_cases hroot : p [] root
    · exact ⟨[], root, isTopmost_root hroot⟩
    · obtain ⟨ancestors, node, htop⟩ := ih (p := fun above => p (root :: above)) hholds
      exact ⟨root :: ancestors, node, isTopmost_iff.2 (.inr ⟨hroot, child, hchild, _, rfl, htop⟩)⟩

end CrontabRenderer.Job
