import CrontabRenderer.Proofs.Job.Tree
import CrontabRenderer.Proofs.Scope.Known

/-!
# What the outcome of rendering depends on

Whether jobs are rendered, and with which error if not, comes from the shape of their trees, their
types and tasks, and the names of the job types that are defined. Trees that agree in this have the
same outcome (`Scope.outcome_renderList`).
-/
namespace CrontabRenderer

/-- Two trees of the same shape whose jobs have the same types and tasks and define job types of the
same names in their places. The rest of the jobs may differ. -/
inductive Job.Alike : Job → Job → Prop
  | intro {job other : Job} (type : job.type = other.type) (task : job.task = other.task)
    (defines : ∀ name, Defines job.declarations name ↔ Defines other.declarations name)
    (children : List.Forall₂ Job.Alike job.children other.children) : job.Alike other

/-- Lists with as many entries, of jobs that are alike. -/
structure JobList.Alike (list other : JobList) : Prop where
  defines : ∀ name, Defines list.declarations name ↔ Defines other.declarations name
  entries : List.Forall₂ (fun entry entry' => List.Forall₂ Job.Alike entry.jobs entry'.jobs)
    list.entries other.entries

namespace Job

theorem Alike.parallel {job other : Job} (h : job.Alike other) :
    RenderError.parallel job = RenderError.parallel other := by
  obtain ⟨htype, htask, -, hchildren⟩ := h
  rw [RenderError.parallel, RenderError.parallel, htype, htask, hchildren.length_eq]

theorem Alike.branches {job other : Job} (h : job.Alike other) (hbranches : job.Branches) :
    other.Branches := by
  obtain ⟨-, -, -, hchildren⟩ := h
  rwa [Branches, ← hchildren.length_eq]

theorem Alike.ensureSingleChain {job other : Job} (h : job.Alike other) :
    job.ensureSingleChain = other.ensureSingleChain := by
  induction job using chainInduction generalizing other with
  | leaf job hleaf =>
    obtain ⟨-, -, -, hchildren⟩ := h
    rw [hleaf, List.forall₂_nil_left_iff] at hchildren
    rw [ensureSingleChain_of_leaf hleaf, ensureSingleChain_of_leaf hchildren]
  | link job child hlink ih =>
    obtain ⟨-, -, -, hchildren⟩ := h
    rw [hlink, List.forall₂_cons_left_iff] at hchildren
    obtain ⟨child', rest, hchild, hrest, hlink'⟩ := hchildren
    rw [List.forall₂_nil_left_iff.1 hrest] at hlink'
    rw [ensureSingleChain_of_link hlink, ensureSingleChain_of_link hlink', ih hchild]
  | branch job hbranches =>
    rw [ensureSingleChain_of_branches hbranches,
      ensureSingleChain_of_branches (h.branches hbranches), h.parallel]

theorem Alike.outcome_command {job other : Job} (h : job.Alike other) {stack stack' : ScopeStack}
    (hknown : ∀ name, stack.current.Knows name ↔ stack'.current.Knows name) :
    outcome (stack.command job) = outcome (stack'.command other) := by
  obtain ⟨htype, htask, -, -⟩ := h
  refine outcome_eq_of_error_iff fun e => ?_
  rw [ScopeStack.command_eq_error_iff, ScopeStack.command_eq_error_iff, hknown, htype,
    RenderError.undefined, RenderError.undefined, htype, htask]

theorem Alike.outcome_compose {job other : Job} (h : job.Alike other) {stack stack' : ScopeStack}
    (hknown : ∀ name, stack.current.Knows name ↔ stack'.current.Knows name) :
    outcome (job.compose stack).1 = outcome (other.compose stack').1 := by
  have hcommand := h.outcome_command hknown
  induction job using chainInduction generalizing other stack stack' with
  | leaf job hleaf =>
    obtain ⟨-, -, -, hchildren⟩ := h
    rw [hleaf, List.forall₂_nil_left_iff] at hchildren
    rw [compose_of_leaf stack hleaf, compose_of_leaf stack' hchildren, hcommand]
  | link job child hlink ih =>
    obtain ⟨-, -, hdefines, hchildren⟩ := h
    rw [hlink, List.forall₂_cons_left_iff] at hchildren
    obtain ⟨child', rest, hchild, hrest, hlink'⟩ := hchildren
    rw [List.forall₂_nil_left_iff.1 hrest] at hlink'
    have hinner : ∀ name, (stack.enter job.declarations).current.Knows name ↔
        (stack'.enter other.declarations).current.Knows name := by
      intro name
      rw [ScopeStack.knows_enter, ScopeStack.knows_enter, hknown, hdefines]
    rw [compose_of_link stack hlink, compose_of_link stack' hlink']
    refine outcome_bind_congr hcommand fun command command' => ?_
    rw [outcome_map, outcome_map]
    exact ih hchild hinner (hchild.outcome_command hinner)
  | branch job hbranches =>
    rw [compose_of_branches stack hbranches, compose_of_branches stack' (h.branches hbranches)]
    refine outcome_bind_congr hcommand fun _ _ => ?_
    rw [h.parallel]

theorem Alike.outcome_renderJob {job other : Job} (h : job.Alike other) {base base' : Scope}
    (hknown : ∀ name, base.Knows name ↔ base'.Knows name) :
    outcome (base.renderJob job) = outcome (base'.renderJob other) := by
  rw [Scope.renderJob, Scope.renderJob, h.ensureSingleChain]
  exact outcome_bind_congr rfl fun _ _ => h.outcome_compose hknown

theorem outcome_forM_ensureSingleChain {jobs others : List Job}
    (h : List.Forall₂ Alike jobs others) :
    outcome (jobs.forM ensureSingleChain) = outcome (others.forM ensureSingleChain) := by
  rw [forM_eq_map_mapM, forM_eq_map_mapM, outcome_map, outcome_map]
  exact outcome_mapM_congr (h.imp fun job other h => congrArg outcome h.ensureSingleChain)

end Job

namespace Scope

variable {base base' : Scope}

theorem outcome_renderEntry (hknown : ∀ name, base.Knows name ↔ base'.Knows name)
    {entry entry' : Entry} (h : List.Forall₂ Job.Alike entry.jobs entry'.jobs) :
    outcome (base.renderEntry entry) = outcome (base'.renderEntry entry') := by
  rw [renderEntry, renderEntry]
  refine outcome_bind_congr (Job.outcome_forM_ensureSingleChain h) fun _ _ => ?_
  refine outcome_bind_congr ?_ fun _ _ => rfl
  exact outcome_mapM_congr (h.imp fun job other h => h.outcome_renderJob hknown)

theorem outcome_renderList (hknown : ∀ name, base.Knows name ↔ base'.Knows name)
    {list list' : JobList} (h : list.Alike list') :
    outcome (base.renderList list) = outcome (base'.renderList list') := by
  have hscope : ∀ name, (base.forList list).Knows name ↔ (base'.forList list').Knows name := by
    intro name
    rw [knows_forList, knows_forList, hknown, h.defines]
  exact outcome_mapM_congr (h.entries.imp fun entry entry' h => outcome_renderEntry hscope h)

end Scope

end CrontabRenderer
