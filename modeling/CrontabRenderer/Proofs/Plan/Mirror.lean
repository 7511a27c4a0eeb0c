import CrontabRenderer.Proofs.Config.Tree
import CrontabRenderer.Proofs.Plan.Precedence
import CrontabRenderer.Proofs.Schedule.Accepted
import Mathlib.Algebra.GroupWithZero.Nat

/-!
# Plans mirror configurations

A plan has the entries of its configuration in their order, and for every job a job with the same
type, the same task and the same flag, in the same place of the tree (`Config.Job.Mirrors`). Time
expressions are all that can keep a configuration from having a plan (`Config.plan_mirrors`).
-/
namespace CrontabRenderer.Config

/-- A tree of jobs has the shape of a tree of configured jobs, with the same type, task and flag in
each place. -/
inductive Job.Mirrors : CrontabRenderer.Job → Job → Prop
  | intro {built : CrontabRenderer.Job} {job : Job} (type : built.type = job.type)
      (task : built.task = job.task) (haltOnFailure : built.haltOnFailure = job.haltOnFailure)
      (nested : List.Forall₂ Mirrors built.children job.jobs) : Mirrors built job

@[simp] theorem Job.haltOnFailure_toJob (job : Job) :
    (Job.toJob job).haltOnFailure = job.haltOnFailure := by
  cases job
  rfl

theorem Job.mirrors_toJob (job : Job) : Job.Mirrors (Job.toJob job) job := by
  induction job using Job.treeInduction with
  | step job ih =>
    refine .intro (type_toJob job) (task_toJob job) (haltOnFailure_toJob job) ?_
    rw [children_toJob, List.forall₂_map_left_iff, List.forall₂_same]
    exact ih

/-- An entry becomes one with its schedule and the trees of its jobs. -/
structure Entry.Mirrors (built : CrontabRenderer.Entry) (entry : Entry) : Prop where
  schedule : Schedule.ofText entry.expression = .ok built.schedule
  /-- The time expression is kept without the blanks at its ends. -/
  expression : built.schedule.expression = Text.trim entry.expression
  jobs : List.Forall₂ Job.Mirrors built.jobs entry.jobs

theorem scheduleOf_eq_ok_iff {expression : String} {schedule : Schedule} :
    scheduleOf expression = .ok schedule ↔ Schedule.ofText expression = .ok schedule := by
  rw [scheduleOf]
  cases Schedule.ofText expression <;> simp

theorem scheduleOf_eq_error_iff {expression : String} {e : ConfigError} :
    scheduleOf expression = .error e ↔
      ∃ error, Schedule.ofText expression = .error error ∧ e = .invalid (.schedule error) := by
  rw [scheduleOf]
  cases Schedule.ofText expression <;> simp [eq_comm]

theorem toEntry_eq_error_iff {entry : Entry} {e : ConfigError} :
    entry.toEntry = .error e ↔
      ∃ error, Schedule.ofText entry.expression = .error error ∧
        e = .invalid (.schedule error) := by
  rw [Entry.toEntry, bind_eq_error_iff, scheduleOf_eq_error_iff, or_iff_left]
  rintro ⟨schedule, -, h⟩
  cases h

theorem exists_toEntry_eq_error_iff {entry : Entry} :
    (∃ e, entry.toEntry = .error e) ↔
      ∃ error, Schedule.ofText entry.expression = .error error := by
  simp only [toEntry_eq_error_iff]
  constructor
  · rintro ⟨e, error, herror, -⟩
    exact ⟨error, herror⟩
  · rintro ⟨error, herror⟩
    exact ⟨_, error, herror, rfl⟩

theorem mirrors_of_toEntry {entry : Entry} {built : CrontabRenderer.Entry}
    (h : entry.toEntry = .ok built) : Entry.Mirrors built entry := by
  obtain ⟨hschedule, hjobs⟩ := toEntry_eq_ok_iff.1 h
  have hschedule := scheduleOf_eq_ok_iff.1 hschedule
  refine ⟨hschedule, (Schedule.ofText_eq_ok_iff.1 hschedule).1, ?_⟩
  rw [hjobs, List.forall₂_map_left_iff, List.forall₂_same]
  exact fun job _ => job.mirrors_toJob

/-- The entries are all that a plan can fail at. -/
theorem plan_eq_error_iff {config : Config} {defaultPath : String} {e : ConfigError} :
    config.plan defaultPath = .error e ↔ config.entries.mapM Entry.toEntry = .error e := by
  have hjobList : config.jobList = .error e ↔ config.entries.mapM Entry.toEntry = .error e := by
    rw [jobList, bind_eq_error_iff, or_iff_left]
    rintro ⟨entries, -, h⟩
    cases h
  rw [plan, bind_eq_error_iff, hjobList, or_iff_left]
  rintro ⟨list, -, h⟩
  cases h

/-- The error of a configuration without a plan is that of the first time expression that is not
accepted. -/
theorem plan_eq_error_iff_isFirst {config : Config} {defaultPath : String} {e : ConfigError} :
    config.plan defaultPath = .error e ↔ ∃ entry error,
      IsFirst (fun entry => ∃ error, Schedule.ofText entry.expression = .error error)
        config.entries entry ∧
      Schedule.ofText entry.expression = .error error ∧ e = .invalid (.schedule error) := by
  rw [plan_eq_error_iff, mapM_eq_error_iff_isFirst]
  apply exists_congr
  intro entry
  rw [isFirst_congr fun entry _ => exists_toEntry_eq_error_iff, toEntry_eq_error_iff,
    exists_and_left]

theorem exists_plan_iff_schedules {config : Config} {defaultPath : String} :
    (∃ plan, config.plan defaultPath = .ok plan) ↔
      ∀ entry ∈ config.entries, ∃ schedule, Schedule.ofText entry.expression = .ok schedule := by
  rw [isOk_iff_not_error]
  simp only [plan_eq_error_iff]
  rw [← isOk_iff_not_error, exists_mapM_eq_ok_iff]
  simp only [exists_toEntry_eq_error_iff, ← isOk_iff_not_error]

theorem entries_of_plan {config : Config} {defaultPath : String} {plan : Plan}
    (h : config.plan defaultPath = .ok plan) :
    config.entries.mapM Entry.toEntry = .ok plan.list.entries := by
  obtain ⟨list, hlist, h⟩ := bind_eq_ok_iff.1 h
  cases h
  obtain ⟨entries, hentries, h⟩ := bind_eq_ok_iff.1 hlist
  cases h
  exact hentries

theorem validate_of_ofText {file : Option String} {text : String} {config : Config}
    (h : ofText file text = .ok config) : config.validate = .ok () := by
  rw [ofText] at h
  cases hread : ofYamlText text with
  | error error => rw [hread] at h; cases h
  | ok read =>
    rw [hread] at h
    obtain ⟨_, hvalid, h⟩ := bind_eq_ok_iff.1 h
    cases h
    exact hvalid

/-- A configuration has no plan just if a time expression of an entry is not accepted, and the error
is that of the first such entry. So each configuration that a text is read as has a plan. A plan has
the entries and the trees of jobs of its configuration, and counts the jobs outside any other. -/
theorem plan_mirrors (config : Config) (defaultPath : String) :
    (∀ e, config.plan defaultPath = .error e ↔ ∃ entry error,
      IsFirst (fun entry => ∃ error, Schedule.ofText entry.expression = .error error)
        config.entries entry ∧
      Schedule.ofText entry.expression = .error error ∧ e = .invalid (.schedule error)) ∧
    ((∃ plan, config.plan defaultPath = .ok plan) ↔
      ∀ entry ∈ config.entries, ∃ schedule, Schedule.ofText entry.expression = .ok schedule) ∧
    (∀ file text, ofText file text = .ok config → ∃ plan, config.plan defaultPath = .ok plan) ∧
    ∀ plan, config.plan defaultPath = .ok plan →
      List.Forall₂ Entry.Mirrors plan.list.entries config.entries ∧
      plan.list.jobCount = (config.entries.map (·.jobs.length)).sum := by
  refine ⟨fun e => plan_eq_error_iff_isFirst, exists_plan_iff_schedules, ?_, ?_⟩
  · intro file text htext
    obtain ⟨plan, hplan, -⟩ := exists_plan_of_validate (validate_of_ofText htext) defaultPath
    exact ⟨plan, hplan⟩
  · intro plan hplan
    have hmirrors : List.Forall₂ Entry.Mirrors plan.list.entries config.entries :=
      ((mapM_eq_ok_iff.1 (entries_of_plan hplan)).imp fun _ _ => mirrors_of_toEntry).flip
    refine ⟨hmirrors, ?_⟩
    rw [JobList.jobCount, List.length_flatMap]
    congr 1
    rw [← List.forall₂_eq_eq_eq, List.forall₂_map_left_iff, List.forall₂_map_right_iff]
    exact hmirrors.imp fun built entry h => h.jobs.length_eq

end CrontabRenderer.Config
