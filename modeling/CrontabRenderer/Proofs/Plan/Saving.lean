import CrontabRenderer.Proofs.Config.Saving
import CrontabRenderer.Proofs.Plan.Mirror

/-!
# Plans of saved configurations

What becomes of a configuration, and of its plan, when it is saved and read back
(`Config.ofJson_toJson_iff`).
-/
namespace CrontabRenderer.Config

section Settings

variable {options set : NameMap OptionValue} {types : NameMap String}

/-- A template that is left out is declared to be none when it is saved. -/
theorem length_templateDeclarations_saved (template : Setting String) :
    (templateDeclarations template.saved).length =
      (templateDeclarations template).length + if template = .absent then 1 else 0 := by
  cases template <;> rfl

theorem length_declarations_saved (template : Setting String) :
    (declarations set template.saved types).length =
      (declarations set template types).length + if template = .absent then 1 else 0 := by
  rw [declarations, declarations]
  simp only [List.length_append, length_templateDeclarations_saved]
  omega

theorem declarations_saved_iff {template : Setting String} :
    declarations set template.saved types = declarations set template types ↔
      template ≠ .absent := by
  constructor
  · rintro h rfl
    have hlength := congrArg List.length h
    rw [length_declarations_saved, if_pos rfl] at hlength
    omega
  · intro h
    rw [Setting.saved_eq_self_iff.2 h]

theorem ownOptions_saved_iff {output : Setting Redirection} :
    Job.ownOptions options (savedOutput output) = Job.ownOptions options output ↔
      output ≠ .given .inherit ∧
        (output = .absent →
          optionText? options outputName = some Redirection.discard.shell) := by
  match output with
  | .absent =>
    constructor
    · intro h
      refine ⟨by simp, fun _ => ?_⟩
      have hname := congrArg (fun options => options.find? outputName) h
      simp only [find?_ownOptions] at hname
      exact hname.symm
    · rintro ⟨-, h⟩
      ext1 name
      rw [find?_ownOptions, find?_ownOptions]
      by_cases hname : name = "output"
      · subst hname
        exact (h rfl).symm
      · simp [hname]
  | .null => simp [savedOutput, Setting.saved]
  | .given .inherit =>
    refine iff_of_false (fun h => ?_) (by simp)
    have hname := congrArg (fun options => options.find? outputName) h
    simp only [find?_ownOptions] at hname
    exact absurd (Option.some_inj.1 hname) (by decide)
  | .given (.combined path) => simp [savedOutput, Setting.saved]
  | .given (.split standard error) => simp [savedOutput, Setting.saved]

theorem topDeclarations_saved_iff {config : Config} :
    config.saved.topDeclarations = config.topDeclarations ↔
      config.output ≠ .absent ∧ config.output ≠ .given .inherit ∧ config.jobTemplate ≠ .absent := by
  obtain ⟨path, defaults, template, output, set, types, entries⟩ := config
  show outputDeclaration (savedOutput output) ++ declarations set template.saved types =
    outputDeclaration output ++ declarations set template types ↔
      output ≠ .absent ∧ output ≠ .given .inherit ∧ template ≠ .absent
  match output with
  | .absent =>
    refine iff_of_false (fun h => ?_) (by simp)
    -- The redirection is declared now, and no other declaration goes away for it.
    have hlength := congrArg List.length h
    rw [List.length_append, length_declarations_saved] at hlength
    change 1 + _ = (declarations set template types).length at hlength
    omega
  | .given .inherit =>
    refine iff_of_false (fun h => ?_) (by simp)
    have hvalue := (Declaration.set.inj (List.cons_eq_cons.1 h).1).2
    exact absurd hvalue (by decide)
  | .null => simpa [savedOutput, Setting.saved] using declarations_saved_iff
  | .given (.combined path) => simpa [savedOutput, Setting.saved] using declarations_saved_iff
  | .given (.split standard error) =>
    simpa [savedOutput, Setting.saved] using declarations_saved_iff

end Settings

/-! ## Plans -/

/-- The job is the same in a plan when it is saved. It may leave out its redirection if it has an
option that discards the output. -/
def Job.IsLoadedAlike (job : Job) : Prop :=
  (job.output ≠ .given .inherit ∧
    (job.output = .absent →
      optionText? job.options outputName = some Redirection.discard.shell)) ∧
    job.jobTemplate ≠ .absent

theorem Job.toJob_saved_iff {job : Job} :
    Job.toJob job.saved = Job.toJob job ↔ ∀ node, job.Contains node → node.IsLoadedAlike := by
  induction job using treeInduction with
  | step job ih =>
    have hjobs : (savedAll job.jobs).map Job.toJob = job.jobs.map Job.toJob ↔
        ∀ child ∈ job.jobs, ∀ node, child.Contains node → node.IsLoadedAlike := by
      rw [savedAll_eq_map, List.map_map, List.map_inj_left]
      exact forall₂_congr ih
    rw [forall_contains_iff, ← hjobs, IsLoadedAlike, ← ownOptions_saved_iff,
      ← @declarations_saved_iff job.set job.jobTypes]
    cases job
    simp only [saved, toJob, toJobs_eq_map, CrontabRenderer.Job.mk.injEq, true_and, and_assoc]

theorem toEntry_saved_iff {entry : Entry} {built : CrontabRenderer.Entry}
    (h : entry.toEntry = .ok built) : entry.saved.toEntry = .ok built ↔
      ∀ job ∈ entry.jobs, ∀ node, job.Contains node → node.IsLoadedAlike := by
  obtain ⟨hschedule, hjobs⟩ := toEntry_eq_ok_iff.1 h
  rw [toEntry_eq_ok_iff, Entry.saved, and_iff_right hschedule, hjobs, eq_comm, Job.savedAll_eq_map,
    List.map_map, List.map_inj_left]
  exact forall₂_congr fun job _ => job.toJob_saved_iff

theorem mapM_toEntry_saved_iff {entries : List Entry} {built : List CrontabRenderer.Entry}
    (h : entries.mapM Entry.toEntry = .ok built) :
    (entries.map Entry.saved).mapM Entry.toEntry = .ok built ↔
      ∀ entry ∈ entries, ∀ job ∈ entry.jobs, ∀ node, job.Contains node → node.IsLoadedAlike := by
  rw [mapM_eq_ok_iff, List.forall₂_map_left_iff]
  induction mapM_eq_ok_iff.1 h with
  | nil => simp
  | cons hentry hentries ih =>
    rw [List.forall₂_cons, toEntry_saved_iff hentry, ih (mapM_eq_ok_iff.2 hentries),
      List.forall_mem_cons]

/-- The plan is the same when the configuration is saved. -/
def IsLoadedAlike (config : Config) : Prop :=
  (config.output ≠ .absent ∧ config.output ≠ .given .inherit ∧ config.jobTemplate ≠ .absent) ∧
    ∀ job, config.Contains job → job.IsLoadedAlike

theorem plan_eq_ok_iff {config : Config} {defaultPath : String} {plan : Plan} :
    config.plan defaultPath = .ok plan ↔ plan.base = config.base defaultPath ∧
      plan.list.declarations = config.topDeclarations ∧
      config.entries.mapM Entry.toEntry = .ok plan.list.entries := by
  rw [Config.plan, bind_eq_ok_iff]
  constructor
  · rintro ⟨list, hlist, h⟩
    cases h
    obtain ⟨entries, hentries, h⟩ := bind_eq_ok_iff.1 hlist
    cases h
    exact ⟨rfl, rfl, hentries⟩
  · rintro ⟨hbase, hdeclarations, hentries⟩
    refine ⟨plan.list, bind_eq_ok_iff.2 ⟨_, hentries, ?_⟩, ?_⟩
    · rw [← hdeclarations]
      rfl
    · rw [← hbase]
      rfl

/-- A time expression that is not accepted is kept as it is. -/
theorem mapM_toEntry_saved_eq_error_iff {entries : List Entry} {e : ConfigError} :
    (entries.map Entry.saved).mapM Entry.toEntry = .error e ↔
      entries.mapM Entry.toEntry = .error e := by
  have hentry : ∀ (entry : Entry) (e : ConfigError),
      entry.saved.toEntry = .error e ↔ entry.toEntry = .error e := by
    intro entry e
    rw [toEntry_eq_error_iff, toEntry_eq_error_iff]
    rfl
  have hmap : (entries.map Entry.saved).mapM Entry.toEntry =
      entries.mapM fun entry => entry.saved.toEntry := List.mapM_map
  rw [hmap, mapM_eq_error_iff_head?, mapM_eq_error_iff_head?, errorsOf_congr hentry]

theorem plan_saved_iff {config : Config} {defaultPath : String} :
    config.saved.plan defaultPath = config.plan defaultPath ↔
      (∃ e, config.plan defaultPath = .error e) ∨ config.IsLoadedAlike := by
  cases h : config.plan defaultPath with
  | error e =>
    have herror := mapM_toEntry_saved_eq_error_iff.2 (plan_eq_error_iff.1 h)
    exact iff_of_true (plan_eq_error_iff.2 herror) (.inl ⟨e, rfl⟩)
  | ok plan =>
    obtain ⟨hbase, hdeclarations, hentries⟩ := plan_eq_ok_iff.1 h
    have hsame : config.saved.base defaultPath = config.base defaultPath := rfl
    rw [plan_eq_ok_iff, hsame, and_iff_right hbase, hdeclarations, eq_comm,
      topDeclarations_saved_iff, saved, mapM_toEntry_saved_iff hentries, ← forall_contains_iff]
    simp [IsLoadedAlike]

/-- A saved configuration can be read just if its numbers are finite. What is read is the same but
for the settings that were left out, which are taken away, and for those that leave both streams
where they are, which discard them. So all of a configuration is kept just if it has none of these.
Its plan is kept just if each of these stands where the plan does not depend on it. What was read
from a saved configuration is kept from then on. -/
theorem ofJson_toJson_iff (config : Config) :
    (∀ config', ofJson config.toJson = .ok config' ↔
      config.HasFiniteNumbers ∧ config' = config.saved) ∧
    (ofJson config.toJson = .ok config ↔ config.HasFiniteNumbers ∧ config.StatesSettings) ∧
    (∀ defaultPath, config.saved.plan defaultPath = config.plan defaultPath ↔
      (∃ e, config.plan defaultPath = .error e) ∨ config.IsLoadedAlike) ∧
    ∀ config', ofJson config.toJson = .ok config' → ofJson config'.toJson = .ok config' := by
  refine ⟨config.yields_ofJson, ?_, fun _ => plan_saved_iff, ?_⟩
  · rw [config.yields_ofJson config, eq_comm, saved_eq_self_iff]
  · intro config' h
    obtain ⟨hfinite, rfl⟩ := (config.yields_ofJson config').1 h
    exact (yields_ofJson _ _).2 ⟨hasFiniteNumbers_saved.2 hfinite, config.saved_saved.symm⟩

/-- A job each day, with the same settings around it and in it. -/
def daily (task : String) (output : Setting Redirection) (template : Setting String) : Config where
  path := none
  defaults := true
  jobTemplate := template
  output := output
  set := ∅
  jobTypes := ∅
  entries := [⟨"@daily", [⟨"command", task, true, ∅, output, ∅, template, ∅, []⟩]⟩]

/-- Without settings, the output of a job goes where it went and the job is run by the stock
wrapping template, but not once its configuration is saved and read back. -/
theorem ofJson_toJson_daily :
    ofJson (daily "ls" .absent .absent).toJson = .ok (daily "ls" .null .null) ∧
    (((daily "ls" .absent .absent).plan "/").map fun plan => plan.base.renderList plan.list) =
      .ok (.ok [⟨"@daily", ["/bin/bash -l -c 'ls'"]⟩]) ∧
    (((daily "ls" .null .null).plan "/").map fun plan => plan.base.renderList plan.list) =
      .ok (.ok [⟨"@daily", ["ls >> /dev/null 2>&1"]⟩]) :=
  ⟨rfl, rfl, rfl⟩

end CrontabRenderer.Config
