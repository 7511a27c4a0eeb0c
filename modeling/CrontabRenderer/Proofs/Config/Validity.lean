import CrontabRenderer.Config.Validation
import CrontabRenderer.Proofs.Config.Tree
import CrontabRenderer.Proofs.Results
import CrontabRenderer.Proofs.Text.Words

/-!
# Valid configurations

What a configuration must have to be accepted, at every depth of its trees of jobs
(`Config.IsValid`), and what is wrong with one that is not, in the order of the file
(`Config.faults`). Checking it gives the first of these faults, and succeeds just if there is none
(`Config.validate_wholeTree`).
-/
namespace CrontabRenderer

namespace Text

/-- One or more ASCII letters, digits and underscores. -/
def IsName (s : String) : Prop :=
  s ≠ "" ∧ ∀ c ∈ s.toList,
    ('a' ≤ c ∧ c ≤ 'z') ∨ ('A' ≤ c ∧ c ≤ 'Z') ∨ ('0' ≤ c ∧ c ≤ '9') ∨ c = '_'

theorem isWordChar_iff {c : Char} :
    isWordChar c = true ↔
      ('a' ≤ c ∧ c ≤ 'z') ∨ ('A' ≤ c ∧ c ≤ 'Z') ∨ ('0' ≤ c ∧ c ≤ '9') ∨ c = '_' := by
  delta isWordChar Char.isAlphanum Char.isAlpha Char.isLower Char.isUpper Char.isDigit
  simp only [Bool.or_eq_true, Bool.and_eq_true, decide_eq_true_eq, beq_iff_eq]
  tauto

theorem isWord_iff_isName {s : String} : isWord s = true ↔ IsName s := by
  rw [isWord_iff, IsName]
  simp only [isWordChar_iff, ne_eq, String.toList_eq_nil_iff]

instance (s : String) : Decidable (IsName s) := decidable_of_iff _ isWord_iff_isName

/-- There is nothing but white space in the text. -/
def IsBlankText (s : String) : Prop := ∀ c ∈ s.toList, isBlank c = true

instance (s : String) : Decidable (IsBlankText s) := List.decidableBAll _ _

theorem isEmpty_trim_iff {s : String} : (trim s).isEmpty = true ↔ IsBlankText s := by
  have hends : (trim s).isEmpty = true ↔ ∀ c ∈ s.toList.dropWhile isBlank, isBlank c = true := by
    simp [trim, trimChars, List.dropWhile_eq_nil_iff]
  rw [hends, IsBlankText]
  constructor
  · intro h
    rw [← List.takeWhile_append_dropWhile (p := isBlank) (l := s.toList), List.forall_mem_append]
    exact ⟨fun c hc => List.mem_takeWhile_imp hc, h⟩
  · intro h c hc
    exact h c ((List.dropWhile_sublist _).mem hc)

end Text

namespace Config

/-! ## Faults -/

/-- The names of a map that are none. -/
def badNames {α : Type} (map : NameMap α) : List String := map.names.filter (¬Text.IsName ·)

def optionFaults (options : NameMap OptionValue) : List ConfigError :=
  (badNames options).map fun name => .invalid (.optionName name)

def jobTypeFaults (types : NameMap String) : List ConfigError :=
  (badNames types).map fun name => .invalid (.jobTypeName name)

/-- What is wrong with the name of a job's type. -/
def typeFaults (type : String) : List ConfigError :=
  if type = "" then [.missing "job"]
  else if Text.IsName type then [] else [.invalid (.jobTypeName type)]

/-- What is wrong with a job, apart from the jobs nested in it. -/
def Job.faults (job : Job) : List ConfigError :=
  typeFaults job.type ++ optionFaults job.options ++ optionFaults job.set ++
    jobTypeFaults job.jobTypes

def scheduleFaults (expression : String) : List ConfigError :=
  match Schedule.ofText expression with
  | .ok _ => []
  | .error error => [.invalid (.schedule error)]

def Entry.faults (entry : Entry) : List ConfigError :=
  (if Text.IsBlankText entry.expression then [.missing "at"] else []) ++
    scheduleFaults entry.expression ++
    (if entry.jobs = [] then [.invalid (.noJobs entry.expression)] else []) ++
    (entry.jobs.flatMap Job.preorder).flatMap Job.faults

/-- What is wrong with a configuration, in the order in which it is checked. -/
def faults (config : Config) : List ConfigError :=
  (if ∃ path, config.path = some path ∧ Text.IsBlankText path then [.invalid .emptyPath] else []) ++
    optionFaults config.set ++ jobTypeFaults config.jobTypes ++ config.entries.flatMap Entry.faults

/-! ## What the checks report -/

theorem checkOptions_eq (options : NameMap OptionValue) :
    checkOptions options = firstError (optionFaults options) := by
  rw [optionFaults, badNames, firstError_map_filter, checkOptions]
  simp only [← Text.isWord_iff_isName, Bool.not_eq_true, Bool.decide_eq_false]
  cases options.names.find? (!Text.isWord ·) <;> rfl

theorem checkJobTypeName_eq (name : String) :
    checkJobTypeName name =
      firstError (if Text.IsName name then [] else [.invalid (.jobTypeName name)]) := by
  rw [checkJobTypeName]
  simp only [Text.isWord_iff_isName]
  split <;> rfl

theorem checkJobTypes_eq (types : NameMap String) :
    checkJobTypes types = firstError (jobTypeFaults types) := by
  rw [checkJobTypes, forM_eq_firstError fun name _ => checkJobTypeName_eq name, jobTypeFaults,
    badNames]
  congr 1
  induction types.names with
  | nil => rfl
  | cons name names ih =>
    by_cases hname : Text.IsName name <;> simp [hname, ih]

theorem Job.validateAll_eq_forM (jobs : List Job) : validateAll jobs = jobs.forM validate := by
  induction jobs with
  | nil => rfl
  | cons job rest ih =>
    rw [validateAll, ih]
    rfl

theorem checkType_eq (type : String) :
    (if type.isEmpty then throw (.missing "job") else pure ()) >>=
      (fun _ => checkJobTypeName type) = firstError (typeFaults type) := by
  rw [typeFaults, checkJobTypeName_eq]
  by_cases htype : type = ""
  · simp [htype]
    rfl
  · simp [htype]

theorem Job.validate_eq (job : Job) :
    job.validate = firstError job.faults >>= fun _ => job.jobs.forM validate := by
  obtain ⟨type, task, haltOnFailure, options, output, set, jobTemplate, jobTypes, jobs⟩ := job
  simp only [faults, firstError_append, ← checkType_eq, ← checkOptions_eq, ← checkJobTypes_eq,
    bind_assoc, ← validateAll_eq_forM]
  rw [validate]
  split <;> rfl

/-- Checking a tree gives the first fault of its jobs. -/
theorem Job.validate_eq_firstError (job : Job) :
    job.validate = firstError (job.preorder.flatMap Job.faults) := by
  induction job using treeInduction with
  | step job ih =>
    rw [validate_eq, forM_eq_firstError ih, preorder_eq, List.flatMap_cons, firstError_append,
      List.flatMap_assoc]

theorem checkSchedule_eq (expression : String) :
    (scheduleOf expression >>= fun _ => .ok ()) = firstError (scheduleFaults expression) := by
  rw [scheduleOf, scheduleFaults]
  cases Schedule.ofText expression <;> rfl

theorem Entry.validate_eq_firstError (entry : Entry) :
    entry.validate = firstError entry.faults := by
  have hjobs : firstError ((entry.jobs.flatMap Job.preorder).flatMap Job.faults) =
      Job.validateAll entry.jobs := by
    rw [Job.validateAll_eq_forM, forM_eq_firstError fun job _ => job.validate_eq_firstError,
      List.flatMap_assoc]
  simp only [faults, firstError_append, firstError_ite, ← checkSchedule_eq, hjobs, bind_assoc,
    ← Text.isEmpty_trim_iff, ← List.isEmpty_iff]
  rw [validate]
  split
  · rfl
  cases scheduleOf entry.expression with
  | error e => rfl
  | ok schedule => split <;> rfl

theorem validate_eq_firstError (config : Config) : config.validate = firstError config.faults := by
  have hpath : (∃ path, config.path = some path ∧ Text.IsBlankText path) ↔
      config.path.any (fun path => (Text.trim path).isEmpty) = true := by
    simp [Option.any_eq_true, ← Text.isEmpty_trim_iff]
  simp only [faults, firstError_append, firstError_ite, ← checkOptions_eq, ← checkJobTypes_eq,
    ← forM_eq_firstError fun entry _ => Entry.validate_eq_firstError entry, bind_assoc, hpath]
  rw [validate]
  split <;> rfl

/-! ## Configurations without faults -/

/-- Every name of the map is one. -/
def HasNames {α : Type} (map : NameMap α) : Prop := ∀ name ∈ map.names, Text.IsName name

/-- A job has a name for its type, and names in its maps. -/
structure Job.IsNamed (job : Job) : Prop where
  type : Text.IsName job.type
  options : HasNames job.options
  set : HasNames job.set
  jobTypes : HasNames job.jobTypes

structure Entry.IsValid (entry : Entry) : Prop where
  notBlank : ¬Text.IsBlankText entry.expression
  accepted : ∃ schedule, Schedule.ofText entry.expression = .ok schedule
  hasJobs : entry.jobs ≠ []
  named : ∀ job ∈ entry.jobs, ∀ node, job.Contains node → node.IsNamed

/-- All that is asked of a configuration. A path may be left out. -/
structure IsValid (config : Config) : Prop where
  path : ∀ path, config.path = some path → ¬Text.IsBlankText path
  set : HasNames config.set
  jobTypes : HasNames config.jobTypes
  entries : ∀ entry ∈ config.entries, entry.IsValid

theorem badNames_eq_nil_iff {α : Type} {map : NameMap α} : badNames map = [] ↔ HasNames map := by
  simp [badNames, HasNames, List.filter_eq_nil_iff]

theorem optionFaults_eq_nil_iff {options : NameMap OptionValue} :
    optionFaults options = [] ↔ HasNames options := by
  rw [optionFaults, List.map_eq_nil_iff, badNames_eq_nil_iff]

theorem jobTypeFaults_eq_nil_iff {types : NameMap String} :
    jobTypeFaults types = [] ↔ HasNames types := by
  rw [jobTypeFaults, List.map_eq_nil_iff, badNames_eq_nil_iff]

theorem typeFaults_eq_nil_iff {type : String} : typeFaults type = [] ↔ Text.IsName type := by
  rw [typeFaults]
  by_cases htype : type = ""
  · simp [htype, Text.IsName]
  · simp [htype]

theorem scheduleFaults_eq_nil_iff {expression : String} :
    scheduleFaults expression = [] ↔ ∃ schedule, Schedule.ofText expression = .ok schedule := by
  rw [scheduleFaults]
  cases Schedule.ofText expression <;> simp

theorem Job.faults_eq_nil_iff {job : Job} : job.faults = [] ↔ job.IsNamed := by
  simp only [faults, List.append_eq_nil_iff, typeFaults_eq_nil_iff, optionFaults_eq_nil_iff,
    jobTypeFaults_eq_nil_iff, and_assoc]
  constructor
  · rintro ⟨htype, hoptions, hset, htypes⟩
    exact ⟨htype, hoptions, hset, htypes⟩
  · rintro ⟨htype, hoptions, hset, htypes⟩
    exact ⟨htype, hoptions, hset, htypes⟩

theorem Entry.faults_eq_nil_iff {entry : Entry} : entry.faults = [] ↔ entry.IsValid := by
  have hnamed : (entry.jobs.flatMap Job.preorder).flatMap Job.faults = [] ↔
      ∀ job ∈ entry.jobs, ∀ node, job.Contains node → node.IsNamed := by
    simp only [List.flatMap_eq_nil_iff, List.mem_flatMap, Job.mem_preorder, Job.faults_eq_nil_iff]
    constructor
    · exact fun h job hjob node hnode => h node ⟨job, hjob, hnode⟩
    · rintro h node ⟨job, hjob, hnode⟩
      exact h job hjob node hnode
  simp only [faults, List.append_eq_nil_iff, scheduleFaults_eq_nil_iff, hnamed, ite_eq_right_iff,
    List.cons_ne_nil, imp_false, and_assoc]
  constructor
  · rintro ⟨hblank, haccepted, hjobs, hnames⟩
    exact ⟨hblank, haccepted, hjobs, hnames⟩
  · rintro ⟨hblank, haccepted, hjobs, hnames⟩
    exact ⟨hblank, haccepted, hjobs, hnames⟩

theorem faults_eq_nil_iff {config : Config} : config.faults = [] ↔ config.IsValid := by
  simp only [faults, List.append_eq_nil_iff, optionFaults_eq_nil_iff, jobTypeFaults_eq_nil_iff,
    List.flatMap_eq_nil_iff, Entry.faults_eq_nil_iff, ite_eq_right_iff, List.cons_ne_nil,
    imp_false, not_exists, not_and, and_assoc]
  constructor
  · rintro ⟨hpath, hset, htypes, hentries⟩
    exact ⟨hpath, hset, htypes, hentries⟩
  · rintro ⟨hpath, hset, htypes, hentries⟩
    exact ⟨hpath, hset, htypes, hentries⟩

/-- A configuration is accepted just if it is valid, down to the innermost job. Otherwise the error
is the first fault: of the path, the options, the job types, and then of the entries one after
another. An entry has its time expression checked first, then that it has jobs, and then its jobs,
each before the ones nested in it. -/
theorem validate_wholeTree (config : Config) :
    (config.validate = .ok () ↔ config.IsValid) ∧
      ∀ e, config.validate = .error e ↔ config.faults.head? = some e := by
  rw [validate_eq_firstError]
  refine ⟨?_, fun e => firstError_eq_error_iff⟩
  rw [firstError_eq_ok_iff, faults_eq_nil_iff]

/-- The faults of a job nested in another come before those of the next entry, and those of its
options before those of its type names. -/
example :
    let inner : Job :=
      { type := "say", task := "b", haltOnFailure := true, options := .ofList [("a b", .flag true)],
        output := .absent, set := ∅, jobTemplate := .absent,
        jobTypes := .ofList [("x-y", ":task")], jobs := [] }
    let outer : Job := { inner with options := ∅, jobTypes := ∅, jobs := [inner] }
    let config : Config :=
      { path := none, defaults := true, jobTemplate := .absent, output := .absent, set := ∅,
        jobTypes := ∅, entries := [⟨"@daily", [outer]⟩, ⟨" ", []⟩] }
    config.validate = .error (.invalid (.optionName "a b")) := by
  decide +kernel

end Config

end CrontabRenderer
