import CrontabRenderer.Proofs.Render.Failure

/-!
# The check for parallel jobs

The check goes from a job to its only child, round by round (`Job.checkRound`). Each round looks at
a job one level further down, so there are at most as many rounds as levels (`Job.exists_checks`).
The check visits one path only. Still it accepts a tree just if no job of the tree branches, and what
it names otherwise is the branching job of least depth (`Job.ensureSingleChain_wholeTree`).
-/
namespace CrontabRenderer.Job

/-- One round of the check: it goes on with a job, or it stops with a result. -/
def checkRound (job : Job) : Job ⊕ Except RenderError Unit :=
  match job.children with
  | [] => .inr (.ok ())
  | [child] => .inl child
  | _ => .inr (.error (.parallel job))

/-- The check of a job stops with a result, after a number of rounds. -/
inductive Checks : Job → Except RenderError Unit → Nat → Prop
  | stop {job : Job} {result : Except RenderError Unit} (h : job.checkRound = .inr result) :
      job.Checks result 1
  | next {job child : Job} {result : Except RenderError Unit} {rounds : Nat}
      (h : job.checkRound = .inl child) (hchild : child.Checks result rounds) :
      job.Checks result (rounds + 1)

section Rounds

variable {job child : Job}

theorem checkRound_of_leaf (h : job.children = []) : job.checkRound = .inr (.ok ()) := by
  simp [checkRound, h]

theorem checkRound_of_link (h : job.children = [child]) : job.checkRound = .inl child := by
  simp [checkRound, h]

theorem checkRound_of_branches (h : job.Branches) :
    job.checkRound = .inr (.error (.parallel job)) := by
  obtain ⟨type, task, options, halt, declarations, children⟩ := job
  match children, h with
  | first :: second :: rest, _ => rfl

/-- The check stops, at a job of the tree, in the round that looks at this job. -/
theorem exists_checks (job : Job) : ∃ ancestors node, job.Contains ancestors node ∧
    job.Checks job.ensureSingleChain (ancestors.length + 1) := by
  induction job using chainInduction with
  | leaf job h =>
    rw [ensureSingleChain_of_leaf h]
    exact ⟨[], job, .root job, .stop (checkRound_of_leaf h)⟩
  | link job child h ih =>
    obtain ⟨ancestors, node, hcontains, hchecks⟩ := ih
    rw [ensureSingleChain_of_link h]
    exact ⟨job :: ancestors, node, .nested (by simp [h]) hcontains,
      .next (checkRound_of_link h) hchecks⟩
  | branch job h =>
    rw [ensureSingleChain_of_branches h]
    exact ⟨[], job, .root job, .stop (checkRound_of_branches h)⟩

end Rounds

variable {root node : Job} {ancestors : List Job}

theorem Contains.children_ne_nil (h : root.Contains ancestors node) :
    ∀ ancestor ∈ ancestors, ancestor.children ≠ [] := by
  induction h with
  | root => simp
  | nested hchild _ ih =>
    exact List.forall_mem_cons.2 ⟨List.ne_nil_of_mem hchild, ih⟩

/-- Below jobs with one child each, any other job of the tree is on the way down to a job or
nested in it. -/
theorem Contains.eq_append_or (h : root.Contains ancestors node)
    (honly : ∀ ancestor ∈ ancestors, ancestor.children.length = 1) {others : List Job} {other : Job}
    (hother : root.Contains others other) :
    (∃ inner, others = ancestors ++ inner ∧ node.Contains inner other) ∨ other ∈ ancestors := by
  induction h generalizing others with
  | root => exact .inl ⟨others, rfl, hother⟩
  | @nested root child node ancestors hchild _ ih =>
    obtain ⟨hroot, honly⟩ := List.forall_mem_cons.1 honly
    cases hother with
    | root => exact .inr List.mem_cons_self
    | @nested _ child' _ others hchild' hother =>
      obtain ⟨only, hchildren⟩ := List.length_eq_one_iff.1 hroot
      obtain rfl : child = only := by simpa [hchildren] using hchild
      obtain rfl : child' = child := by simpa [hchildren] using hchild'
      rcases ih honly hother with ⟨inner, rfl, hinner⟩ | hmem
      · exact .inl ⟨inner, rfl, hinner⟩
      · exact .inr (List.mem_cons_of_mem _ hmem)

/-- The topmost job that branches is the end of a path of only children. -/
theorem isTopmost_branches_iff : root.IsTopmost (fun _ => Branches) ancestors node ↔
    root.Contains ancestors node ∧ node.Branches ∧
      ∀ ancestor ∈ ancestors, ancestor.children.length = 1 := by
  constructor
  · rintro ⟨hcontains, hbranches, habove⟩
    refine ⟨hcontains, hbranches, fun ancestor hmem => ?_⟩
    obtain ⟨before, after, hsplit⟩ := List.append_of_mem hmem
    have hsome : 0 < ancestor.children.length :=
      List.length_pos_iff.2 (hcontains.children_ne_nil ancestor hmem)
    have hfew : ¬1 < ancestor.children.length := habove before ancestor after hsplit
    omega
  · rintro ⟨hcontains, hbranches, honly⟩
    refine ⟨hcontains, hbranches, fun before ancestor after hsplit => ?_⟩
    have hone : ancestor.children.length = 1 := honly ancestor (by simp [hsplit])
    simp [Branches, hone]

/-- A job of the tree with two or more children, with fewer jobs above it than above any other such
job. -/
structure IsLeastBranch (root : Job) (ancestors : List Job) (node : Job) : Prop where
  contains : root.Contains ancestors node
  branches : 2 ≤ node.children.length
  least : ∀ others other, root.Contains others other → 2 ≤ other.children.length →
    ancestors.length < others.length ∨ (others = ancestors ∧ other = node)

theorem isLeastBranch_of_isTopmost (h : root.IsTopmost (fun _ => Branches) ancestors node) :
    root.IsLeastBranch ancestors node := by
  obtain ⟨hcontains, hbranches, honly⟩ := isTopmost_branches_iff.1 h
  refine ⟨hcontains, hbranches, fun others other hother htwo => ?_⟩
  rcases hcontains.eq_append_or honly hother with ⟨inner, rfl, hinner⟩ | hmem
  · cases hinner with
    | root => exact .inr ⟨List.append_nil ancestors, rfl⟩
    | nested => exact .inl (by simp)
  · have hone := honly other hmem
    omega

/-- The check stops after at most one round for each level of the tree. It accepts the tree just if
every job of it, at every depth, has at most one child. Otherwise it names the job of least depth
with two or more children and says how many there are, and every job above that one has exactly one
child. -/
theorem ensureSingleChain_wholeTree (job : Job) :
    (∃ ancestors node, job.Contains ancestors node ∧
      job.Checks job.ensureSingleChain (ancestors.length + 1)) ∧
    (job.ensureSingleChain = .ok () ↔
      ∀ ancestors node, job.Contains ancestors node → node.children.length ≤ 1) ∧
    ∀ e, job.ensureSingleChain = .error e ↔ ∃ ancestors node,
      job.IsLeastBranch ancestors node ∧
      e = .parallelJobs node.type node.task node.children.length ∧
      ∀ ancestor ∈ ancestors, ancestor.children.length = 1 := by
  refine ⟨exists_checks job, ?_, fun e => ?_⟩
  · rw [ensureSingleChain_eq_ok_iff_not_holdsBranch, HoldsBranch]
    simp only [not_exists, not_and, Branches, Nat.not_lt]
  · rw [ensureSingleChain_eq_error_iff]
    apply exists₂_congr
    intro ancestors node
    constructor
    · rintro ⟨htop, rfl⟩
      exact ⟨isLeastBranch_of_isTopmost htop, rfl, (isTopmost_branches_iff.1 htop).2.2⟩
    · rintro ⟨hleast, rfl, honly⟩
      exact ⟨isTopmost_branches_iff.2 ⟨hleast.contains, hleast.branches, honly⟩, rfl⟩

/-- A branch at the third level is found, and the one below it is not named. -/
example :
    let leaf : Job := { type := "say", task := "d" }
    let inner : Job := { leaf with task := "e", children := [leaf, leaf, leaf] }
    let branch : Job := { leaf with task := "c", children := [inner, leaf] }
    let root : Job := { leaf with task := "a", children := [{ leaf with children := [branch] }] }
    root.ensureSingleChain = .error (.parallelJobs "say" "c" 2) := rfl

end CrontabRenderer.Job
