import CrontabRenderer.Proofs.Render.Outcome

/-!
# What stops rendering

A list is rendered if every tree of its jobs is a chain and every job finds its type
(`Scope.renderList_failure`). Types are found in the scope that rendering starts from and in the
declarations of the jobs around a job, whatever else is declared there (`Job.FindsType`).
-/
namespace CrontabRenderer

namespace Job

/-- The type of a job is known from the start or is defined by a job around it. -/
def FindsType (known : String → Prop) (ancestors : List Job) (job : Job) : Prop :=
  known job.type ∨ ∃ ancestor ∈ ancestors, Defines ancestor.declarations job.type

theorem findsType_cons {known : String → Prop} {ancestor job : Job} {ancestors : List Job} :
    job.FindsType known (ancestor :: ancestors) ↔
      job.FindsType (fun name => known name ∨ Defines ancestor.declarations name) ancestors := by
  simp [FindsType, or_assoc]

/-- The check for parallel jobs follows one path only, but the topmost job that branches is on
it. -/
theorem ensureSingleChain_eq_error_iff {job : Job} {e : RenderError} :
    job.ensureSingleChain = .error e ↔ ∃ ancestors node,
      job.IsTopmost (fun _ => Branches) ancestors node ∧ e = .parallel node := by
  induction job using chainInduction with
  | leaf job h =>
    have hroot : ¬job.Branches := by simp [Branches, h]
    have hleaf := not_topmost_of_childless (p := fun _ => Branches)
      (q := fun _ node => e = .parallel node) hroot h
    simp [ensureSingleChain_of_leaf h, hleaf]
  | link job child h ih =>
    have hroot : ¬job.Branches := by simp [Branches, h]
    rw [ensureSingleChain_of_link h, ih,
      topmost_iff_of_only_child (p := fun _ => Branches) hroot h]
  | branch job h =>
    rw [ensureSingleChain_of_branches h, topmost_iff_of_root (p := fun _ => Branches) h]
    simp [eq_comm]

/-- What rendering stops with at a job itself, whatever is nested in it. -/
def StopsWith (known : String → Prop) (ancestors : List Job) (job : Job) (e : RenderError) : Prop :=
  (¬job.FindsType known ancestors ∧ e = .undefined job) ∨
    (job.FindsType known ancestors ∧ job.Branches ∧ e = .parallel job)

/-- The job does not find its type, or it branches. -/
def Stops (known : String → Prop) (ancestors : List Job) (job : Job) : Prop :=
  ¬job.FindsType known ancestors ∨ job.Branches

section Stops

variable {known : String → Prop} {job : Job} {ancestors : List Job} {e : RenderError}

theorem stopsWith_cons {ancestor : Job} :
    StopsWith known (ancestor :: ancestors) job e ↔
      StopsWith (fun name => known name ∨ Defines ancestor.declarations name) ancestors job e := by
  rw [StopsWith, StopsWith, findsType_cons]

theorem stops_cons {ancestor : Job} :
    Stops known (ancestor :: ancestors) =
      Stops (fun name => known name ∨ Defines ancestor.declarations name) ancestors := by
  funext job
  rw [Stops, Stops, findsType_cons]

theorem stops_iff_exists_stopsWith :
    Stops known ancestors job ↔ ∃ e, StopsWith known ancestors job e := by
  by_cases h : job.FindsType known ancestors <;> simp [Stops, StopsWith, h]

theorem findsType_nil : job.FindsType known [] ↔ known job.type := by simp [FindsType]

end Stops

theorem compose_of_unknown {job : Job} {stack : ScopeStack} (h : ¬stack.current.Knows job.type) :
    (job.compose stack).1 = .error (.undefined job) := by
  have hcommand := ScopeStack.command_eq_error_iff.2 ⟨h, rfl⟩
  induction job using chainInduction with
  | leaf job hleaf => rw [compose_of_leaf stack hleaf, hcommand]
  | link job child hlink _ => rw [compose_of_link stack hlink, hcommand]; rfl
  | branch job hbranches => rw [compose_of_branches stack hbranches, hcommand]; rfl

theorem compose_eq_error_iff_of_unknown {job : Job} {stack : ScopeStack} {e : RenderError}
    (h : ¬stack.current.Knows job.type) :
    (job.compose stack).1 = .error e ↔ ∃ ancestors node,
      job.IsTopmost (Stops stack.current.Knows) ancestors node ∧
        StopsWith stack.current.Knows ancestors node e := by
  rw [compose_of_unknown h, topmost_iff_of_root (.inl (findsType_nil.not.2 h))]
  simp [StopsWith, findsType_nil, h, eq_comm]

/-- Without the check for parallel jobs, rendering goes down until a job has no type or branches. -/
theorem compose_eq_error_iff {job : Job} {stack : ScopeStack} {e : RenderError} :
    (job.compose stack).1 = .error e ↔ ∃ ancestors node,
      job.IsTopmost (Stops stack.current.Knows) ancestors node ∧
        StopsWith stack.current.Knows ancestors node e := by
  induction job using chainInduction generalizing stack with
  | leaf job h =>
    by_cases htype : stack.current.Knows job.type
    · have hroot : ¬Stops stack.current.Knows [] job := by
        simp [Stops, Branches, findsType_nil, htype, h]
      have hleaf := not_topmost_of_childless
        (q := fun ancestors node => StopsWith stack.current.Knows ancestors node e) hroot h
      rw [compose_of_leaf stack h, ScopeStack.command_eq_error_iff]
      simp [hleaf, htype]
    · exact compose_eq_error_iff_of_unknown htype
  | link job child h ih =>
    by_cases htype : stack.current.Knows job.type
    · have hroot : ¬Stops stack.current.Knows [] job := by
        simp [Stops, Branches, findsType_nil, htype, h]
      have hknown : (stack.enter job.declarations).current.Knows =
          fun name => stack.current.Knows name ∨ Defines job.declarations name := by
        funext name
        rw [ScopeStack.knows_enter]
      obtain ⟨command, hcommand⟩ := ScopeStack.exists_command htype
      have hcompose : (job.compose stack).1 = .error e ↔
          (child.compose (stack.enter job.declarations)).1 = .error e := by
        rw [compose_of_link stack h, hcommand, Except.bind, map_eq_error_iff]
      rw [hcompose, ih, hknown, topmost_iff_of_only_child hroot h]
      simp only [stops_cons, stopsWith_cons]
    · exact compose_eq_error_iff_of_unknown htype
  | branch job h =>
    by_cases htype : stack.current.Knows job.type
    · obtain ⟨command, hcommand⟩ := ScopeStack.exists_command htype
      rw [compose_of_branches stack h, hcommand, topmost_iff_of_root (.inr h)]
      simp [StopsWith, findsType_nil, htype, h, Except.bind, eq_comm]
    · exact compose_eq_error_iff_of_unknown htype

theorem exists_compose_error_iff {job : Job} {stack : ScopeStack} :
    (∃ e, (job.compose stack).1 = .error e) ↔
      ∃ ancestors node, job.Contains ancestors node ∧ Stops stack.current.Knows ancestors node := by
  simp only [compose_eq_error_iff]
  constructor
  · rintro ⟨e, ancestors, node, htop, -⟩
    exact ⟨ancestors, node, htop.contains, htop.holds⟩
  · rintro ⟨ancestors, node, hcontains, hstops⟩
    obtain ⟨ancestors, node, htop⟩ := exists_isTopmost hcontains hstops
    obtain ⟨e, he⟩ := stops_iff_exists_stopsWith.1 htop.holds
    exact ⟨e, ancestors, node, htop, he⟩

/-- A job of the tree branches. -/
def HoldsBranch (job : Job) : Prop := ∃ ancestors node, job.Contains ancestors node ∧ node.Branches

/-- A job of the tree does not find its type. -/
def HoldsUnknown (known : String → Prop) (job : Job) : Prop :=
  ∃ ancestors node, job.Contains ancestors node ∧ ¬node.FindsType known ancestors

theorem HoldsBranch.exists_isTopmost {job : Job} (h : job.HoldsBranch) :
    ∃ ancestors node, job.IsTopmost (fun _ => Branches) ancestors node := by
  obtain ⟨ancestors, node, hcontains, hbranches⟩ := h
  exact Job.exists_isTopmost (p := fun _ => Branches) hcontains hbranches

theorem HoldsUnknown.exists_isTopmost {known : String → Prop} {job : Job}
    (h : job.HoldsUnknown known) : ∃ ancestors node,
      job.IsTopmost (fun ancestors node => ¬node.FindsType known ancestors) ancestors node := by
  obtain ⟨ancestors, node, hcontains, hunknown⟩ := h
  exact Job.exists_isTopmost (p := fun ancestors node => ¬node.FindsType known ancestors)
    hcontains hunknown

theorem exists_ensureSingleChain_error_iff {job : Job} :
    (∃ e, job.ensureSingleChain = .error e) ↔ job.HoldsBranch := by
  simp only [ensureSingleChain_eq_error_iff]
  constructor
  · rintro ⟨e, ancestors, node, htop, -⟩
    exact ⟨ancestors, node, htop.contains, htop.holds⟩
  · intro hbranch
    obtain ⟨ancestors, node, htop⟩ := hbranch.exists_isTopmost
    exact ⟨.parallel node, ancestors, node, htop, rfl⟩

theorem ensureSingleChain_eq_ok_iff_not_holdsBranch {job : Job} :
    job.ensureSingleChain = .ok () ↔ ¬job.HoldsBranch := by
  rw [← exists_ensureSingleChain_error_iff, ← isOk_iff_not_error]
  exact ⟨fun h => ⟨(), h⟩, fun ⟨(), h⟩ => h⟩

/-- In a chain, rendering stops only at a job that does not find its type. -/
theorem compose_eq_error_iff_of_chain {job : Job} (hchain : ¬job.HoldsBranch) {stack : ScopeStack}
    {e : RenderError} :
    (job.compose stack).1 = .error e ↔ ∃ ancestors node,
      job.IsTopmost (fun ancestors node => ¬node.FindsType stack.current.Knows ancestors)
        ancestors node ∧ e = .undefined node := by
  have hstops : ∀ ancestors node, job.Contains ancestors node →
      (Stops stack.current.Knows ancestors node ↔
        ¬node.FindsType stack.current.Knows ancestors) := by
    intro ancestors node hcontains
    exact or_iff_left fun hbranches => hchain ⟨ancestors, node, hcontains, hbranches⟩
  rw [compose_eq_error_iff]
  apply exists₂_congr
  intro ancestors node
  rw [isTopmost_congr hstops]
  apply and_congr_right
  intro htop
  simp [StopsWith, htop.holds]

end Job

namespace Scope

theorem renderJob_eq_error_iff_of_chain {base : Scope} {job : Job} (hchain : ¬job.HoldsBranch)
    {e : RenderError} :
    base.renderJob job = .error e ↔ ∃ ancestors node,
      job.IsTopmost (fun ancestors node => ¬node.FindsType base.Knows ancestors) ancestors node ∧
        e = .undefined node := by
  rw [renderJob, Job.ensureSingleChain_eq_ok_iff_not_holdsBranch.2 hchain]
  exact Job.compose_eq_error_iff_of_chain hchain

theorem exists_renderJob_error_iff_of_chain {base : Scope} {job : Job}
    (hchain : ¬job.HoldsBranch) :
    (∃ e, base.renderJob job = .error e) ↔ job.HoldsUnknown base.Knows := by
  simp only [renderJob_eq_error_iff_of_chain hchain]
  constructor
  · rintro ⟨e, ancestors, node, htop, -⟩
    exact ⟨ancestors, node, htop.contains, htop.holds⟩
  · intro hunknown
    obtain ⟨ancestors, node, htop⟩ := hunknown.exists_isTopmost
    exact ⟨.undefined node, ancestors, node, htop, rfl⟩

/-- The check for parallel jobs changes no command. -/
theorem compose_eq_ok_iff {base : Scope} {job : Job} {command : String} :
    (job.compose ⟨base, []⟩).1 = .ok command ↔ base.renderJob job = .ok command := by
  by_cases hbranch : job.HoldsBranch
  · obtain ⟨e, hrender⟩ := Job.exists_ensureSingleChain_error_iff.2 hbranch
    obtain ⟨ancestors, node, hcontains, hbranches⟩ := hbranch
    have hstops : ∃ e, (job.compose ⟨base, []⟩).1 = .error e :=
      Job.exists_compose_error_iff.2 ⟨ancestors, node, hcontains, .inr hbranches⟩
    obtain ⟨e', hcompose⟩ := hstops
    rw [renderJob, hrender, hcompose]
    simp [bind, Except.bind]
  · rw [renderJob, Job.ensureSingleChain_eq_ok_iff_not_holdsBranch.2 hbranch]
    rfl

end Scope

namespace Entry

/-- The error of an entry: parallel jobs anywhere in it come before every unknown job type. -/
def FailsWith (known : String → Prop) (entry : Entry) (e : RenderError) : Prop :=
  (∃ job ancestors node, IsFirst Job.HoldsBranch entry.jobs job ∧
    job.IsTopmost (fun _ => Job.Branches) ancestors node ∧
    e = .parallelJobs node.type node.task node.children.length) ∨
  ((∀ job ∈ entry.jobs, ¬job.HoldsBranch) ∧
    ∃ job ancestors node, IsFirst (Job.HoldsUnknown known) entry.jobs job ∧
      job.IsTopmost (fun ancestors node => ¬node.FindsType known ancestors) ancestors node ∧
      e = .undefinedJobType node.type node.task)

end Entry

namespace Scope

variable {base : Scope} {entry : Entry} {e : RenderError}

theorem forM_ensureSingleChain_eq_error_iff {jobs : List Job} :
    jobs.forM Job.ensureSingleChain = .error e ↔ ∃ job ancestors node,
      IsFirst Job.HoldsBranch jobs job ∧ job.IsTopmost (fun _ => Job.Branches) ancestors node ∧
        e = .parallel node := by
  rw [forM_eq_error_iff]
  apply exists_congr
  intro job
  rw [isFirst_congr fun job _ => Job.exists_ensureSingleChain_error_iff,
    Job.ensureSingleChain_eq_error_iff]
  simp

theorem mapM_renderJob_eq_error_iff {jobs : List Job} (hchains : ∀ job ∈ jobs, ¬job.HoldsBranch) :
    jobs.mapM base.renderJob = .error e ↔ ∃ job ancestors node,
      IsFirst (Job.HoldsUnknown base.Knows) jobs job ∧
        job.IsTopmost (fun ancestors node => ¬node.FindsType base.Knows ancestors) ancestors node ∧
        e = .undefined node := by
  rw [mapM_eq_error_iff_isFirst]
  apply exists_congr
  intro job
  rw [isFirst_congr fun job hjob => exists_renderJob_error_iff_of_chain (hchains job hjob)]
  constructor
  · rintro ⟨hfirst, he⟩
    obtain ⟨ancestors, node, h⟩ :=
      (renderJob_eq_error_iff_of_chain (hchains job hfirst.mem)).1 he
    exact ⟨ancestors, node, hfirst, h⟩
  · rintro ⟨ancestors, node, hfirst, h⟩
    exact ⟨hfirst,
      (renderJob_eq_error_iff_of_chain (hchains job hfirst.mem)).2 ⟨ancestors, node, h⟩⟩

theorem forM_ensureSingleChain_eq_ok_iff {jobs : List Job} :
    jobs.forM Job.ensureSingleChain = .ok () ↔ ∀ job ∈ jobs, ¬job.HoldsBranch := by
  rw [forM_eq_ok_iff]
  exact forall₂_congr fun job _ => Job.ensureSingleChain_eq_ok_iff_not_holdsBranch

theorem renderEntry_eq_error_iff :
    base.renderEntry entry = .error e ↔ entry.FailsWith base.Knows e := by
  rw [renderEntry, bind_eq_error_iff, Entry.FailsWith, forM_ensureSingleChain_eq_error_iff]
  apply or_congr_right
  constructor
  · rintro ⟨⟨⟩, hchains, h⟩
    have hchains := forM_ensureSingleChain_eq_ok_iff.1 hchains
    rcases bind_eq_error_iff.1 h with h | ⟨commands, -, h⟩
    · exact ⟨hchains, (mapM_renderJob_eq_error_iff hchains).1 h⟩
    · cases h
  · rintro ⟨hchains, h⟩
    refine ⟨(), forM_ensureSingleChain_eq_ok_iff.2 hchains, bind_eq_error_iff.2 (.inl ?_)⟩
    exact (mapM_renderJob_eq_error_iff hchains).2 h

end Scope

/-- Every job has one child at most, and finds its type. -/
def Entry.Renders (known : String → Prop) (entry : Entry) : Prop :=
  ∀ job ∈ entry.jobs, ∀ ancestors node, job.Contains ancestors node →
    node.children.length ≤ 1 ∧ node.FindsType known ancestors

theorem Entry.renders_iff {known : String → Prop} {entry : Entry} :
    entry.Renders known ↔ ¬∃ e, entry.FailsWith known e := by
  constructor
  · rintro h ⟨e, ⟨job, ancestors, node, hfirst, htop, -⟩ |
      ⟨-, job, ancestors, node, hfirst, htop, -⟩⟩
    · have hone := (h job hfirst.mem ancestors node htop.contains).1
      exact absurd htop.holds (by simpa [Job.Branches] using hone)
    · exact htop.holds (h job hfirst.mem ancestors node htop.contains).2
  · intro h
    have hchains : ∀ job ∈ entry.jobs, ¬job.HoldsBranch := by
      rw [← not_exists_isFirst_iff]
      rintro ⟨job, hfirst⟩
      obtain ⟨ancestors, node, htop⟩ := hfirst.holds.exists_isTopmost
      exact h ⟨_, .inl ⟨job, ancestors, node, hfirst, htop, rfl⟩⟩
    have hknown : ∀ job ∈ entry.jobs, ¬job.HoldsUnknown known := by
      rw [← not_exists_isFirst_iff]
      rintro ⟨job, hfirst⟩
      obtain ⟨ancestors, node, htop⟩ := hfirst.holds.exists_isTopmost
      exact h ⟨_, .inr ⟨hchains, job, ancestors, node, hfirst, htop, rfl⟩⟩
    intro job hjob ancestors node hcontains
    refine ⟨?_, ?_⟩
    · by_contra hbranches
      exact hchains job hjob ⟨ancestors, node, hcontains, by simpa [Job.Branches] using hbranches⟩
    · by_contra hunknown
      exact hknown job hjob ⟨ancestors, node, hcontains, hunknown⟩

namespace Scope

theorem knows_forList_eq (base : Scope) (list : JobList) :
    (base.forList list).Knows = fun name => base.Knows name ∨ Defines list.declarations name := by
  funext name
  rw [knows_forList]

/-- A list is rendered just if every job has one child at most and finds its type: in the scope, in
the declarations of the list or in those of the jobs around it. Otherwise the first entry that does
not meet this gives the error, for its first job with parallel jobs or else for its first job
without a type. Nothing but the shape of the trees and the names in them has a say in it. Rendering
a tree without the check for parallel jobs gives the same commands, and otherwise the error of the
topmost job that it stops at. -/
theorem renderList_failure (base : Scope) (list : JobList) :
    let known := fun name => base.Knows name ∨ Defines list.declarations name
    ((∃ rendered, base.renderList list = .ok rendered) ↔
      ∀ entry ∈ list.entries, entry.Renders known) ∧
    (∀ e, base.renderList list = .error e ↔
      ∃ entry, IsFirst (fun entry => ¬entry.Renders known) list.entries entry ∧
        entry.FailsWith known e) ∧
    (∀ (base' : Scope) (list' : JobList), (∀ name, base.Knows name ↔ base'.Knows name) →
      list.Alike list' → outcome (base.renderList list) = outcome (base'.renderList list')) ∧
    ∀ job : Job,
      (∀ command, (job.compose ⟨base, []⟩).1 = .ok command ↔ base.renderJob job = .ok command) ∧
      ∀ e, (job.compose ⟨base, []⟩).1 = .error e ↔ ∃ ancestors node,
        job.IsTopmost (Job.Stops base.Knows) ancestors node ∧
          node.StopsWith base.Knows ancestors e := by
  intro known
  have hentry : ∀ entry : Entry,
      (∃ e, (base.forList list).renderEntry entry = .error e) ↔ ¬entry.Renders known := by
    intro entry
    simp only [renderEntry_eq_error_iff, knows_forList_eq, Entry.renders_iff, not_not, known]
  refine ⟨?_, fun e => ?_, fun base' list' hknown h => outcome_renderList hknown h,
    fun job => ⟨fun command => compose_eq_ok_iff, fun e => Job.compose_eq_error_iff⟩⟩
  · rw [renderList, exists_mapM_eq_ok_iff]
    simp only [hentry, not_not]
  · rw [renderList, mapM_eq_error_iff_isFirst]
    apply exists_congr
    intro entry
    rw [isFirst_congr fun entry _ => hentry entry, renderEntry_eq_error_iff, knows_forList_eq]

end Scope

end CrontabRenderer
