import CrontabRenderer.Proofs.Results
import CrontabRenderer.Render
import Mathlib.Tactic.Common

/-!
# Chains in one scope

A chain is rendered with a scope of its own for every block, pushed on those around it. The same
commands come from one scope alone, to which each block adds its declarations
(`renderJob_chain`). What holds between the two while the blocks are opened is
`ScopeStack.Flattens`.
-/
namespace CrontabRenderer

namespace Job

/-- The job without those nested in it. -/
def alone (job : Job) : Job := { job with children := [] }

/-- Each job as the only one nested in the job before it, in place of its own children. -/
def chain : Job → List Job → Job
  | job, [] => job.alone
  | job, next :: rest => { job with children := [next.chain rest] }

@[simp] theorem ensureSingleChain_chain (job : Job) (rest : List Job) :
    (job.chain rest).ensureSingleChain = .ok () := by
  induction rest generalizing job with
  | nil => simp [chain, alone, ensureSingleChain]
  | cons next rest ih => simpa [chain, ensureSingleChain] using ih next

/-- A job is accepted for rendering only if it is a chain. -/
theorem ensureSingleChain_eq_ok_iff {job : Job} :
    job.ensureSingleChain = .ok () ↔ ∃ rest, job = job.chain rest := by
  constructor
  · intro h
    fun_induction ensureSingleChain job with
    | case1 => exact ⟨[], rfl⟩
    | case2 type task options halt declarations child ih =>
      obtain ⟨rest, hrest⟩ := ih h
      exact ⟨child :: rest, by rw [chain, ← hrest]⟩
    | case3 => cases h
  · rintro ⟨rest, hrest⟩
    rw [hrest]
    exact ensureSingleChain_chain job rest

/-- The commands of a chain on one line: the operator of each link stands between its command and
the next one. -/
def lineOf : List Job → List String → String
  | [_], command :: _ => command
  | job :: links, command :: commands => job.operator.join command (lineOf links commands)
  | _, _ => ""

theorem lineOf_cons (job : Job) {links : List Job} (hlinks : links ≠ []) (command : String)
    (commands : List String) :
    lineOf (job :: links) (command :: commands) =
      job.operator.join command (lineOf links commands) := by
  obtain ⟨next, rest, rfl⟩ := List.exists_cons_of_ne_nil hlinks
  rfl

/-- No operator comes after the last command. -/
theorem lineOf_append_singleton (links : List Job) (last other : Job) (commands : List String) :
    lineOf (links ++ [last]) commands = lineOf (links ++ [other]) commands := by
  induction links generalizing commands with
  | nil => cases commands <;> rfl
  | cons job links ih =>
    cases commands with
    | nil => simp [lineOf]
    | cons command commands =>
      rw [List.cons_append, List.cons_append, lineOf_cons _ (by simp), lineOf_cons _ (by simp), ih]

end Job

namespace Scope

theorem declareAll_append (scope : Scope) (first second : List Declaration) :
    scope.declareAll (first ++ second) = (scope.declareAll first).declareAll second :=
  List.foldl_append

/-- What each link of a chain gives alone, in the one scope that has the declarations of all links
before it. -/
def flatResults (base : Scope) (links : List Job) : List (Except RenderError String) :=
  links.mapIdx fun j job =>
    (base.declareAll ((links.take j).flatMap (·.declarations))).renderJob job.alone

theorem flatResults_cons (base : Scope) (job : Job) (links : List Job) :
    base.flatResults (job :: links) =
      base.renderJob job.alone :: (base.declareAll job.declarations).flatResults links := by
  have hnone : base.declareAll [] = base := rfl
  simp [flatResults, List.mapIdx_cons, declareAll_append, hnone]

theorem flatResults_append_singleton (base : Scope) (links : List Job) (last : Job) :
    base.flatResults (links ++ [last]) = base.flatResults links ++
      [(base.declareAll (links.flatMap (·.declarations))).renderJob last.alone] := by
  induction links generalizing base with
  | nil => rfl
  | cons job links ih =>
    rw [List.cons_append, flatResults_cons, flatResults_cons, ih, List.flatMap_cons,
      declareAll_append, List.cons_append]

/-- Only the type, the task and the options of a job make its command. -/
theorem renderJob_alone (scope : Scope) (job : Job) :
    scope.renderJob job.alone = (⟨scope, []⟩ : ScopeStack).command job := rfl

end Scope

/-- Every job finds the same in the stack as in the scope: the wrapping template, the job types, and
the value of each option. -/
structure ScopeStack.Flattens (stack : ScopeStack) (scope : Scope) : Prop where
  jobTemplate : stack.current.jobTemplate = scope.jobTemplate
  jobTypes : stack.current.jobTypes = scope.jobTypes
  value : ∀ name, (stack.current.globals :: stack.outer.map (·.globals)).findSome? (·.find? name) =
    scope.globals.find? name

namespace ScopeStack

theorem flattens_root (scope : Scope) : (⟨scope, []⟩ : ScopeStack).Flattens scope := by
  refine ⟨rfl, rfl, fun name => ?_⟩
  cases h : scope.globals.find? name <;> simp [h]

/-- A declaration in the innermost block changes what jobs find as it changes the one scope. -/
theorem Flattens.declare {current scope : Scope} {outer : List Scope}
    (h : (⟨current, outer⟩ : ScopeStack).Flattens scope) (declaration : Declaration) :
    (⟨current.declare declaration, outer⟩ : ScopeStack).Flattens (scope.declare declaration) := by
  obtain ⟨htemplate, htypes, hvalue⟩ := h
  cases declaration with
  | set name value =>
    refine ⟨htemplate, htypes, fun other => ?_⟩
    have hother := hvalue other
    simp only [Scope.declare, Scope.setOption, List.findSome?_cons, NameMap.find?_insert]
      at hother ⊢
    by_cases hname : other = name
    · simp [hname]
    · simpa [hname] using hother
  | jobTemplate template => exact ⟨rfl, htypes, hvalue⟩
  | jobType type =>
    refine ⟨htemplate, ?_, hvalue⟩
    exact congrArg (NameMap.insert · type.name type.template) htypes

theorem Flattens.declareAll {current scope : Scope} {outer : List Scope}
    (h : (⟨current, outer⟩ : ScopeStack).Flattens scope) (declarations : List Declaration) :
    (⟨current.declareAll declarations, outer⟩ : ScopeStack).Flattens
      (scope.declareAll declarations) := by
  induction declarations generalizing current scope with
  | nil => exact h
  | cons declaration rest ih => exact ih (h.declare declaration)

/-- Opening a block is, for the jobs in it, the same as declaring in the one scope. -/
theorem Flattens.enter {stack : ScopeStack} {scope : Scope} (h : stack.Flattens scope)
    (declarations : List Declaration) :
    (stack.enter declarations).Flattens (scope.declareAll declarations) := by
  have hblock :
      (⟨stack.current.child, stack.current :: stack.outer⟩ : ScopeStack).Flattens scope := by
    refine ⟨h.jobTemplate, h.jobTypes, fun name => ?_⟩
    rw [← h.value name]
    -- the block has no options of its own yet, so the search goes on outside it
    simp [Scope.child, List.findSome?_cons]
  exact hblock.declareAll declarations

theorem Flattens.resolve {stack : ScopeStack} {scope : Scope} (h : stack.Flattens scope)
    (own : OptionSet) :
    (stack.resolver own).resolve = ((⟨scope, []⟩ : ScopeStack).resolver own).resolve := by
  funext name
  have hstack := h.value name
  have hroot := (flattens_root scope).value name
  simp only [Resolver.resolve, resolver]
  rw [List.findSome?_cons, hstack, List.findSome?_cons, hroot]

theorem Flattens.command {stack : ScopeStack} {scope : Scope} (h : stack.Flattens scope)
    (job : Job) : stack.command job = scope.renderJob job.alone := by
  rw [Scope.renderJob_alone]
  simp only [ScopeStack.command, jobType?, h.jobTypes, h.jobTemplate, h.resolve]

end ScopeStack

namespace Job

theorem compose_chain_cons (job next : Job) (rest : List Job) (stack : ScopeStack) :
    ((job.chain (next :: rest)).compose stack).1 =
      (stack.command job).bind fun command =>
        (((next.chain rest).compose (stack.enter job.declarations)).1).map
          (job.operator.join command) := by
  have hcommand : stack.command { job with children := [next.chain rest] } = stack.command job :=
    rfl
  rw [chain, compose, hcommand]
  cases stack.command job <;> rfl

/-- A chain in a stack of scopes gives what its links give one after another in one scope. -/
theorem compose_chain {stack : ScopeStack} {scope : Scope} (h : stack.Flattens scope) (job : Job)
    (rest : List Job) :
    ((job.chain rest).compose stack).1 =
      ((scope.flatResults (job :: rest)).mapM id).map (lineOf (job :: rest)) := by
  induction rest generalizing job stack scope with
  | nil =>
    rw [Scope.flatResults_cons, ← h.command]
    change stack.command job = _
    cases stack.command job <;> rfl
  | cons next rest ih =>
    rw [compose_chain_cons, Scope.flatResults_cons, ← h.command, ih (h.enter job.declarations)]
    cases stack.command job with
    | error e => rfl
    | ok command =>
      rw [List.mapM_cons]
      cases ((scope.declareAll job.declarations).flatResults (next :: rest)).mapM id <;> rfl

end Job

namespace Scope

theorem renderJob_chain (base : Scope) (job : Job) (rest : List Job) :
    base.renderJob (job.chain rest) =
      ((base.flatResults (job :: rest)).mapM id).map (Job.lineOf (job :: rest)) := by
  rw [renderJob, Job.ensureSingleChain_chain]
  exact Job.compose_chain (ScopeStack.flattens_root base) job rest

/-- A chain has a command if every link has one in the one scope. -/
theorem renderJob_chain_eq_ok_iff {base : Scope} {job : Job} {rest : List Job} {line : String} :
    base.renderJob (job.chain rest) = .ok line ↔
      ∃ commands, base.flatResults (job :: rest) = commands.map .ok ∧
        Job.lineOf (job :: rest) commands = line := by
  rw [renderJob_chain, map_eq_ok_iff]
  apply exists_congr
  intro commands
  rw [mapM_id_eq_ok_iff]

/-- A chain is rendered as its links are alone, each in the one scope that has the declarations of
the links before it: to the line of their commands, or with the error of the first that fails. A
link's own flag and declarations do not change what it gives alone, and those of the last link
change nothing. -/
theorem renderJob_chain_eq_flat (base : Scope) (job : Job) (rest : List Job) :
    (∀ commands, base.flatResults (job :: rest) = commands.map .ok →
      base.renderJob (job.chain rest) = .ok (Job.lineOf (job :: rest) commands)) ∧
    (∀ (before : List String) e after,
      base.flatResults (job :: rest) = before.map .ok ++ .error e :: after →
      base.renderJob (job.chain rest) = .error e) ∧
    (∀ (scope : Scope) (link : Job) (halt : Bool) (declarations : List Declaration),
      scope.renderJob { link with haltOnFailure := halt, declarations, children := [] } =
        scope.renderJob link.alone) ∧
    ∀ (last : Job) (halt : Bool) (declarations : List Declaration),
      base.renderJob (job.chain (rest ++ [{ last with haltOnFailure := halt, declarations }])) =
        base.renderJob (job.chain (rest ++ [last])) := by
  refine ⟨fun commands h => ?_, fun before e after h => ?_, fun scope link halt declarations => rfl,
    fun last halt declarations => ?_⟩
  · exact renderJob_chain_eq_ok_iff.2 ⟨commands, h, rfl⟩
  · have hfails : (base.flatResults (job :: rest)).mapM id = .error e :=
      mapM_eq_error_iff.2 ⟨before.map .ok, .error e, after, h, by simp, rfl⟩
    rw [renderJob_chain, hfails]
    rfl
  · have hline := Job.lineOf_append_singleton (job :: rest)
      { last with haltOnFailure := halt, declarations } last
    rw [renderJob_chain, renderJob_chain, ← List.cons_append, ← List.cons_append,
      flatResults_append_singleton, flatResults_append_singleton, funext hline]
    rfl

/-- A block that shadows an option, clears the wrapping template and defines its job type again. -/
theorem renderJob_chain_shadowed :
    let base : Scope :=
      { jobTemplate := some "|:job|", jobTypes := .ofList [("say", ":x :task")],
        globals := .ofList [("x", "1")] }
    let first : Job :=
      { type := "say", task := "a",
        declarations := [.set "x" "2", .jobTemplate none, .jobType ⟨"say", "':task' :x"⟩] }
    let second : Job := { type := "say", task := "b", haltOnFailure := false }
    base.flatResults [first, second, second] = ["|1 a|", "'b' 2", "'b' 2"].map .ok ∧
      base.renderJob (first.chain [second, second]) = .ok "|1 a| && 'b' 2 ; 'b' 2" := by
  intro base first second
  have hflat : base.flatResults [first, second, second] = ["|1 a|", "'b' 2", "'b' 2"].map .ok := by
    decide +kernel
  exact ⟨hflat, (renderJob_chain_eq_flat base first [second, second]).1 _ hflat⟩

end Scope

end CrontabRenderer
