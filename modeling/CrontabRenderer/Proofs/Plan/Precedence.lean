import CrontabRenderer.Plan
import CrontabRenderer.Proofs.Chain.Flat
import CrontabRenderer.Proofs.Template.Filling
import Mathlib.Data.List.Induction

/-!
# Which setting counts

What a schedule file says about one job is spread over the job, the jobs around it and the file. The
nearest setting counts: `Config.value?`, `Config.template?` and `Config.wrapper?` say where it is
looked for. Declaring all settings in scopes and rendering in them comes to the same
(`Config.renderJob_plan`).
-/
namespace CrontabRenderer.Config

/-! ## The nearest setting -/

/-- What a setting puts in place of those further out: nothing if it is left out, and no value if it
is null. -/
def choice? {α : Type} : Setting α → Option (Option α)
  | .absent => none
  | .null => some none
  | .given value => some (some value)

/-- The value that a redirection gives the option `output`. A null discards the output. -/
def outputText? : Setting Redirection → Option String
  | .absent => none
  | .null => some ">> /dev/null 2>&1"
  | .given redirection => some redirection.shell

def optionText? (options : NameMap OptionValue) (name : String) : Option String :=
  (options.find? name).map OptionValue.toText

/-- The value of an option where the file sets none. -/
def baseValue? (config : Config) (defaultPath name : String) : Option String :=
  let path := config.path.getD defaultPath
  if config.defaults then (Scope.stock path).globals.find? name
  else if name = "path" then some path
  else none

/-- The value of an option for a job with these ancestors, the outermost first. The redirection of a
job comes before its options, that of the file after the file's. -/
def value? (config : Config) (defaultPath : String) (ancestors : List Job) (job : Job)
    (name : String) : Option String :=
  (if name = "output" then outputText? job.output else none)
    |>.or (optionText? job.options name)
    |>.or (ancestors.reverse.findSome? fun ancestor => optionText? ancestor.set name)
    |>.or (optionText? config.set name)
    |>.or (if name = "output" then outputText? config.output else none)
    |>.or (config.baseValue? defaultPath name)

/-- The template of a job type for a job with these ancestors. -/
def template? (config : Config) (ancestors : List Job) (type : String) : Option String :=
  (ancestors.reverse.findSome? fun ancestor => ancestor.jobTypes.find? type)
    |>.or (config.jobTypes.find? type)
    |>.or (if config.defaults then (Scope.stock "").jobTypes.find? type else none)

/-- The wrapping template for a job with these ancestors. -/
def wrapper? (config : Config) (ancestors : List Job) : Option String :=
  (ancestors.reverse.findSome? fun ancestor => choice? ancestor.jobTemplate)
    |>.or (choice? config.jobTemplate)
    |>.getD (if config.defaults then some Scope.loginShell else none)

/-- The command of a job with these ancestors, without the jobs nested in it. -/
def command (config : Config) (defaultPath : String) (ancestors : List Job) (job : Job) :
    Except RenderError String :=
  match config.template? ancestors job.type with
  | none => .error (.undefinedJobType job.type job.task)
  | some template =>
    let value? := config.value? defaultPath ancestors job
    let text := Text.squish (Template.fill template job.task value?)
    match config.wrapper? ancestors with
    | none => .ok text
    | some wrapper => .ok (Template.wrap wrapper text job.task value?)

/-- A job without branches in its tree, with the jobs of the tree from the top down. -/
inductive Job.IsChain : Job → List Job → Prop
  | last {job : Job} (h : job.jobs = []) : job.IsChain [job]
  | link {job child : Job} {links : List Job} (h : job.jobs = [child])
      (hchild : child.IsChain links) : job.IsChain (job :: links)

end CrontabRenderer.Config

namespace CrontabRenderer

/-! ## Declarations of a block -/

namespace Scope

theorem declareAll_set (scope : Scope) (entries : List (String × String)) :
    scope.declareAll (entries.map fun (name, value) => .set name value) =
      { scope with globals := scope.globals.insertAll entries } := by
  induction entries generalizing scope with
  | nil => rfl
  | cons entry entries ih => exact ih (scope.setOption entry.1 entry.2)

theorem declareAll_jobType (scope : Scope) (entries : List (String × String)) :
    scope.declareAll (entries.map fun (name, template) => .jobType ⟨name, template⟩) =
      { scope with jobTypes := scope.jobTypes.insertAll entries } := by
  induction entries generalizing scope with
  | nil => rfl
  | cons entry entries ih => exact ih (scope.define ⟨entry.1, entry.2⟩)

theorem declareAll_templateDeclarations (scope : Scope) (template : Setting String) :
    scope.declareAll (Config.templateDeclarations template) =
      { scope with jobTemplate := (Config.choice? template).getD scope.jobTemplate } := by
  cases template <;> rfl

/-- Every setting of a block takes the place of what was in force. -/
theorem declareAll_declarations (scope : Scope) (set : NameMap OptionValue)
    (template : Setting String) (types : NameMap String) :
    scope.declareAll (Config.declarations set template types) =
      { jobTemplate := (Config.choice? template).getD scope.jobTemplate
        jobTypes := scope.jobTypes.insertAll types.entries
        globals := scope.globals.insertAll (Config.optionSet set).entries } := by
  rw [Config.declarations, declareAll_append, declareAll_append, declareAll_set,
    declareAll_templateDeclarations, declareAll_jobType]

end Scope

namespace Config

/-- The declarations of a job for the jobs nested in it. -/
def Job.block (job : Job) : List Declaration := declarations job.set job.jobTemplate job.jobTypes

theorem find?_optionSet (options : NameMap OptionValue) (name : String) :
    (optionSet options).find? name = optionText? options name :=
  NameMap.find?_map OptionValue.toText options name

theorem Job.toJobs_eq_map (jobs : List Job) : Job.toJobs jobs = jobs.map Job.toJob := by
  induction jobs with
  | nil => rfl
  | cons job rest ih => rw [Job.toJobs, ih, List.map_cons]

section Fields

variable (job : Job)

@[simp] theorem Job.type_toJob : (Job.toJob job).type = job.type := by
  cases job
  rfl

@[simp] theorem Job.task_toJob : (Job.toJob job).task = job.task := by
  cases job
  rfl

@[simp] theorem Job.options_toJob :
    (Job.toJob job).options = Job.ownOptions job.options job.output := by
  cases job
  rfl

@[simp] theorem Job.children_toJob : (Job.toJob job).children = job.jobs.map Job.toJob := by
  rw [← Job.toJobs_eq_map]
  cases job
  rfl

@[simp] theorem Job.declarations_toJob : (Job.toJob job).declarations = job.block := by
  cases job
  rfl

end Fields

section Blocks

variable (scope : Scope) (ancestors : List Job)

/-! The innermost of nested blocks counts. The induction is on the blocks from the outside in, as
they are declared. -/

theorem find?_globals_blocks (name : String) :
    (scope.declareAll (ancestors.flatMap Job.block)).globals.find? name =
      (ancestors.reverse.findSome? fun ancestor => optionText? ancestor.set name).or
        (scope.globals.find? name) := by
  induction ancestors using List.reverseRecOn with
  | nil => rfl
  | append_singleton ancestors ancestor ih =>
    rw [List.flatMap_append, List.flatMap_singleton, Scope.declareAll_append, Job.block,
      Scope.declareAll_declarations, NameMap.find?_insertAll_entries, find?_optionSet, ih,
      List.reverse_append]
    cases h : optionText? ancestor.set name <;> simp [h]

theorem find?_jobTypes_blocks (type : String) :
    (scope.declareAll (ancestors.flatMap Job.block)).jobTypes.find? type =
      (ancestors.reverse.findSome? fun ancestor => ancestor.jobTypes.find? type).or
        (scope.jobTypes.find? type) := by
  induction ancestors using List.reverseRecOn with
  | nil => rfl
  | append_singleton ancestors ancestor ih =>
    rw [List.flatMap_append, List.flatMap_singleton, Scope.declareAll_append, Job.block,
      Scope.declareAll_declarations, NameMap.find?_insertAll_entries, ih, List.reverse_append]
    cases h : ancestor.jobTypes.find? type <;> simp [h]

theorem jobTemplate_blocks :
    (scope.declareAll (ancestors.flatMap Job.block)).jobTemplate =
      (ancestors.reverse.findSome? fun ancestor => choice? ancestor.jobTemplate).getD
        scope.jobTemplate := by
  induction ancestors using List.reverseRecOn with
  | nil => rfl
  | append_singleton ancestors ancestor ih =>
    rw [List.flatMap_append, List.flatMap_singleton, Scope.declareAll_append, Job.block,
      Scope.declareAll_declarations, ih, List.reverse_append]
    cases h : choice? ancestor.jobTemplate <;> simp [h]

end Blocks

/-- The scope of the jobs outside any other job. -/
def topScope (config : Config) (defaultPath : String) : Scope :=
  (config.base defaultPath).declareAll config.topDeclarations

section TopScope

variable (config : Config) (defaultPath : String)

theorem find?_globals_base (name : String) :
    (config.base defaultPath).globals.find? name = config.baseValue? defaultPath name := by
  rw [base, baseValue?]
  split
  · rfl
  · simp [Scope.setOption, pathName]

theorem outputText?_eq (output : Setting Redirection) :
    outputText? output = (redirection? output).map (·.shell) := by
  cases output <;> rfl

/-- The redirection of the file, which is declared before its options. -/
def outputDeclaration (output : Setting Redirection) : List Declaration :=
  ((redirection? output).map fun redirection =>
    Declaration.set outputName redirection.shell).toList

theorem find?_globals_output (scope : Scope) (output : Setting Redirection) (name : String) :
    (scope.declareAll (outputDeclaration output)).globals.find? name =
      (if name = "output" then outputText? output else none).or (scope.globals.find? name) := by
  rw [outputText?_eq, outputDeclaration]
  cases redirection? output with
  | none => simp [Scope.declareAll]
  | some redirection =>
    by_cases hname : name = "output" <;>
      simp [Scope.declareAll, Scope.declare, Scope.setOption, outputName, hname]

theorem declareAll_output (scope : Scope) (output : Setting Redirection) :
    (scope.declareAll (outputDeclaration output)).jobTypes = scope.jobTypes ∧
      (scope.declareAll (outputDeclaration output)).jobTemplate = scope.jobTemplate := by
  rw [outputDeclaration]
  cases redirection? output <;> exact ⟨rfl, rfl⟩

theorem topScope_eq : config.topScope defaultPath =
    ((config.base defaultPath).declareAll (outputDeclaration config.output)).declareAll
      (declarations config.set config.jobTemplate config.jobTypes) :=
  Scope.declareAll_append _ _ _

theorem find?_globals_topScope (name : String) :
    (config.topScope defaultPath).globals.find? name =
      ((optionText? config.set name).or
        (if name = "output" then outputText? config.output else none)).or
          (config.baseValue? defaultPath name) := by
  rw [topScope_eq, Scope.declareAll_declarations, NameMap.find?_insertAll_entries, find?_optionSet,
    find?_globals_output, find?_globals_base, Option.or_assoc]

theorem find?_jobTypes_topScope (type : String) :
    (config.topScope defaultPath).jobTypes.find? type =
      (config.jobTypes.find? type).or
        (if config.defaults then (Scope.stock "").jobTypes.find? type else none) := by
  have hbase : (config.base defaultPath).jobTypes.find? type =
      if config.defaults then (Scope.stock "").jobTypes.find? type else none := by
    rw [base]
    split <;> rfl
  rw [topScope_eq, Scope.declareAll_declarations, NameMap.find?_insertAll_entries,
    (declareAll_output _ _).1, hbase]

theorem jobTemplate_topScope :
    (config.topScope defaultPath).jobTemplate =
      (choice? config.jobTemplate).getD
        (if config.defaults then some Scope.loginShell else none) := by
  have hbase : (config.base defaultPath).jobTemplate =
      if config.defaults then some Scope.loginShell else none := by
    rw [base]
    split <;> rfl
  rw [topScope_eq, Scope.declareAll_declarations, (declareAll_output _ _).2, hbase]

end TopScope

/-- The scope that a job with these ancestors would be rendered in if there were one scope only. -/
def scopeUnder (config : Config) (defaultPath : String) (ancestors : List Job) : Scope :=
  (config.topScope defaultPath).declareAll (ancestors.flatMap Job.block)

theorem find?_ownOptions (options : NameMap OptionValue) (output : Setting Redirection)
    (name : String) :
    (Job.ownOptions options output).find? name =
      (if name = "output" then outputText? output else none).or (optionText? options name) := by
  rw [outputText?_eq, Job.ownOptions]
  cases redirection? output with
  | none => simp [find?_optionSet]
  | some redirection =>
    by_cases hname : name = "output" <;> simp [outputName, hname, find?_optionSet]

section Link

variable (config : Config) (defaultPath : String) (ancestors : List Job) (job : Job)

theorem resolve_scopeUnder (name : String) :
    ((⟨config.scopeUnder defaultPath ancestors, []⟩ : ScopeStack).resolver
      (Job.ownOptions job.options job.output)).resolve name =
        config.value? defaultPath ancestors job name := by
  have hroot : ∀ globals : OptionSet,
      [globals].findSome? (·.find? name) = globals.find? name := by
    intro globals
    cases h : globals.find? name <;> simp [h]
  rw [Resolver.resolve_eq_or, ScopeStack.resolver, List.map_nil, hroot, find?_ownOptions,
    scopeUnder, find?_globals_blocks, find?_globals_topScope, value?]
  simp only [Option.or_assoc]

theorem jobType?_scopeUnder (type : String) :
    (config.scopeUnder defaultPath ancestors).jobTypes.find? type =
      config.template? ancestors type := by
  rw [scopeUnder, find?_jobTypes_blocks, find?_jobTypes_topScope, template?, Option.or_assoc]

theorem jobTemplate_scopeUnder :
    (config.scopeUnder defaultPath ancestors).jobTemplate = config.wrapper? ancestors := by
  rw [scopeUnder, jobTemplate_blocks, jobTemplate_topScope, wrapper?]
  cases ancestors.reverse.findSome? fun ancestor => choice? ancestor.jobTemplate <;> rfl

/-- In one scope with all declarations around it, a job gives the command of its nearest
settings. -/
theorem renderJob_scopeUnder :
    (config.scopeUnder defaultPath ancestors).renderJob (Job.toJob job).alone =
      config.command defaultPath ancestors job := by
  have hlookup := funext (config.resolve_scopeUnder defaultPath ancestors job)
  rw [Scope.renderJob_alone, ScopeStack.command, ScopeStack.jobType?, command,
    RenderError.undefined]
  simp only [Job.type_toJob, Job.task_toJob, Job.options_toJob, jobType?_scopeUnder]
  cases config.template? ancestors job.type with
  | none => rfl
  | some template =>
    cases hwrapper : config.wrapper? ancestors with
    | none => simp only [jobTemplate_scopeUnder, hwrapper, hlookup]
    | some wrapper => simp only [jobTemplate_scopeUnder, hwrapper, hlookup]

end Link

/-! ## Chains -/

/-- The job that a chain becomes is the chain of the jobs that its links become. -/
theorem Job.IsChain.toJob_eq {job : Job} {links : List Job} (h : job.IsChain links) :
    ∃ rest, links = job :: rest ∧ Job.toJob job = (Job.toJob job).chain (rest.map Job.toJob) := by
  have hchildren (job : CrontabRenderer.Job) {children : List CrontabRenderer.Job}
      (h : job.children = children) : job = { job with children } := by
    subst h
    cases job
    rfl
  induction h with
  | @last job h => exact ⟨[], rfl, hchildren _ (by simp [h])⟩
  | @link job child links h _ ih =>
    obtain ⟨rest, rfl, hrest⟩ := ih
    refine ⟨child :: rest, rfl, ?_⟩
    rw [List.map_cons, CrontabRenderer.Job.chain, ← hrest]
    exact hchildren _ (by simp [h])

/-- What the links of a chain give, each below the ones before it. -/
def commands (config : Config) (defaultPath : String) (links : List Job) :
    List (Except RenderError String) :=
  links.mapIdx fun j job => config.command defaultPath (links.take j) job

theorem flatResults_topScope (config : Config) (defaultPath : String) (links : List Job) :
    (config.topScope defaultPath).flatResults (links.map Job.toJob) =
      config.commands defaultPath links := by
  refine List.ext_getElem (by simp [Scope.flatResults, commands]) fun j _ hj => ?_
  have hblocks : ((links.map Job.toJob).take j).flatMap (·.declarations) =
      (links.take j).flatMap Job.block := by
    rw [← List.map_take, List.flatMap_map]
    simp
  simp only [Scope.flatResults, commands, List.getElem_mapIdx, List.getElem_map, hblocks]
  exact config.renderJob_scopeUnder defaultPath (links.take j) _

theorem renderJob_topScope {config : Config} {defaultPath : String} {job : Job} {links : List Job}
    (h : job.IsChain links) :
    (config.topScope defaultPath).renderJob (Job.toJob job) =
      ((config.commands defaultPath links).mapM id).map
        (CrontabRenderer.Job.lineOf (links.map Job.toJob)) := by
  obtain ⟨rest, rfl, hjob⟩ := h.toJob_eq
  rw [hjob, Scope.renderJob_chain, ← flatResults_topScope, List.map_cons]

/-! ## Plans of valid configurations -/

theorem exists_scheduleOf_of_validate {entry : Entry} (h : entry.validate = .ok ()) :
    ∃ schedule, scheduleOf entry.expression = .ok schedule := by
  rw [Entry.validate] at h
  split at h
  · cases h
  · obtain ⟨schedule, hschedule, -⟩ := bind_eq_ok_iff.1 h
    exact ⟨schedule, hschedule⟩

theorem validate_entry_of_validate {config : Config} (h : config.validate = .ok ()) :
    ∀ entry ∈ config.entries, entry.validate = .ok () := by
  unfold validate at h
  extract_lets rest at h
  split at h
  · cases h
  · obtain ⟨_, -, h⟩ := bind_eq_ok_iff.1 h
    obtain ⟨_, -, h⟩ := bind_eq_ok_iff.1 h
    exact forM_eq_ok_iff.1 h

theorem toEntry_eq_ok_iff {entry : Entry} {entry' : CrontabRenderer.Entry} :
    entry.toEntry = .ok entry' ↔ scheduleOf entry.expression = .ok entry'.schedule ∧
      entry'.jobs = entry.jobs.map Job.toJob := by
  rw [Entry.toEntry, bind_eq_ok_iff, Job.toJobs_eq_map]
  constructor
  · rintro ⟨schedule, hschedule, h⟩
    cases h
    exact ⟨hschedule, rfl⟩
  · rintro ⟨hschedule, hjobs⟩
    refine ⟨entry'.schedule, hschedule, ?_⟩
    rw [← hjobs]
    rfl

theorem exists_jobList_of_validate {config : Config} (h : config.validate = .ok ()) :
    ∃ list, config.jobList = .ok list ∧ list.declarations = config.topDeclarations ∧
      list.entries.map (·.jobs) = config.entries.map (·.jobs.map Job.toJob) := by
  have hentries : ∃ entries, config.entries.mapM Entry.toEntry = .ok entries := by
    refine exists_mapM_eq_ok_iff.2 fun entry hentry => isOk_iff_not_error.1 ?_
    obtain ⟨schedule, hschedule⟩ :=
      exists_scheduleOf_of_validate (validate_entry_of_validate h entry hentry)
    exact ⟨⟨schedule, entry.jobs.map Job.toJob⟩, toEntry_eq_ok_iff.2 ⟨hschedule, rfl⟩⟩
  obtain ⟨entries, hentries⟩ := hentries
  refine ⟨⟨config.topDeclarations, entries⟩, bind_eq_ok_iff.2 ⟨entries, hentries, rfl⟩, rfl, ?_⟩
  have hjobs : List.Forall₂ (fun entry entry' => entry'.jobs = entry.jobs.map Job.toJob)
      config.entries entries :=
    (mapM_eq_ok_iff.1 hentries).imp fun entry entry' h => (toEntry_eq_ok_iff.1 h).2
  rw [← List.forall₂_eq_eq_eq, List.forall₂_map_left_iff, List.forall₂_map_right_iff]
  exact hjobs.flip

/-- A valid configuration has a plan, with its entries and their jobs. -/
theorem exists_plan_of_validate {config : Config} (h : config.validate = .ok ())
    (defaultPath : String) : ∃ plan, config.plan defaultPath = .ok plan ∧
      plan.scope = config.topScope defaultPath ∧
      plan.list.entries.map (·.jobs) = config.entries.map (·.jobs.map Job.toJob) := by
  obtain ⟨list, hlist, hdeclarations, hjobs⟩ := exists_jobList_of_validate h
  refine ⟨⟨config.base defaultPath, list⟩, bind_eq_ok_iff.2 ⟨list, hlist, rfl⟩, ?_, hjobs⟩
  rw [Plan.scope, Scope.forList, hdeclarations, topScope]

/-- A valid configuration has a plan, with its entries and their jobs. A job outside any other job
whose tree is a chain is rendered to the commands that its links have by their nearest settings, one
after another, or to the first error of a link. Of an option without a value, the placeholder stays
in the template. -/
theorem renderJob_plan {config : Config} (hvalid : config.validate = .ok ())
    (defaultPath : String) : ∃ plan, config.plan defaultPath = .ok plan ∧
      plan.list.entries.map (·.jobs) = config.entries.map (·.jobs.map Job.toJob) ∧
      ∀ entry ∈ config.entries, ∀ job ∈ entry.jobs, ∀ links, job.IsChain links →
        plan.scope.renderJob (Job.toJob job) = ((config.commands defaultPath links).mapM id).map
          (CrontabRenderer.Job.lineOf (links.map Job.toJob)) ∧
        ∀ (ancestors : List Job) (link : Job) (name : String), name ≠ Template.taskName →
          config.value? defaultPath ancestors link name = none → ∀ before rest,
            let fill := Template.fillPieces (Template.taskReserved link.task)
              (config.value? defaultPath ancestors link)
            (fill before (.placeholder name :: rest)).text =
              ':' :: name.toList ++ (fill none rest).text := by
  obtain ⟨plan, hplan, hscope, hjobs⟩ := exists_plan_of_validate hvalid defaultPath
  refine ⟨plan, hplan, hjobs, fun entry _ job _ links hlinks => ⟨?_, ?_⟩⟩
  · rw [hscope]
    exact renderJob_topScope hlinks
  · intro ancestors link name hname hnone before rest
    exact Template.text_fillPieces_of_eq_none hname hnone before rest

/-- A file whose settings are overridden in a block: the option `x` by the block for the nested job,
but not for the job of the block; the option `output` by a redirection; the wrapping template by a
null. -/
theorem renderJob_plan_overridden :
    let second : Job :=
      { type := "say", task := "b", haltOnFailure := true, options := ∅, output := .absent,
        set := ∅, jobTemplate := .absent, jobTypes := ∅, jobs := [] }
    let first : Job :=
      { type := "say", task := "a", haltOnFailure := false,
        options := .ofList [("output", .text "lost")], output := .null,
        set := .ofList [("x", .text "2")], jobTemplate := .null,
        jobTypes := .ofList [("say", "say ':task' :x in :path :output")], jobs := [second] }
    let config : Config :=
      { path := none, defaults := true, jobTemplate := .given "(:job)",
        output := .given (.combined "log"), set := .ofList [("x", .flag true)],
        jobTypes := .ofList [("say", "say :task :x :y :output")], entries := [⟨"@daily", [first]⟩] }
    config.validate = .ok () ∧ ∃ plan, config.plan "/home" = .ok plan ∧
      plan.scope.renderJob (Job.toJob first) = .ok
        "(say a true :y >> /dev/null 2>&1) ; say 'b' 2 in /home >> log 2>&1" := by
  intro second first config
  have hvalid : config.validate = .ok () := by decide +kernel
  have hline : ((config.commands "/home" [first, second]).mapM id).map
      (CrontabRenderer.Job.lineOf ([first, second].map Job.toJob)) = .ok
        "(say a true :y >> /dev/null 2>&1) ; say 'b' 2 in /home >> log 2>&1" := by
    decide +kernel
  obtain ⟨plan, hplan, -, hrender⟩ := renderJob_plan hvalid "/home"
  refine ⟨hvalid, plan, hplan, ?_⟩
  rw [← hline]
  exact (hrender _ (List.mem_singleton_self _) first (List.mem_singleton_self _) [first, second]
    (.link rfl (.last rfl))).1

end Config

end CrontabRenderer
