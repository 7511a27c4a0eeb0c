import CrontabRenderer.Config.FromJson
import CrontabRenderer.Config.ToJson
import CrontabRenderer.Proofs.Config.Tree
import CrontabRenderer.Proofs.Results

/-!
# Saved configurations

What is read back from a configuration that is written as JSON (`Config.yields_ofJson`). It can be
read just if all of its numbers are finite. Then all of it is read back, but the settings that are
left out are taken away now (`Config.saved`), so that a configuration is kept just if it states each
of its settings (`Config.saved_eq_self_iff`).
-/
namespace CrontabRenderer

/-! ## Heights -/

namespace Json

theorem height_le_heights {item : Json} {items : List Json} (h : item ∈ items) :
    item.height ≤ height.heights items := by
  induction h with
  | head rest => exact Nat.le_max_left _ _
  | tail first _ ih => exact Nat.le_trans ih (Nat.le_max_right _ _)

theorem height_le_memberHeights {member : String × Json} {members : List (String × Json)}
    (h : member ∈ members) : member.2.height ≤ height.memberHeights members := by
  induction h with
  | head rest => exact Nat.le_max_left _ _
  | tail first _ ih => exact Nat.le_trans ih (Nat.le_max_right _ _)

theorem height_lt_array {item : Json} {items : List Json} (h : item ∈ items) :
    item.height < (array items).height := Nat.lt_succ_of_le (height_le_heights h)

theorem height_lt_object {member : String × Json} {members : List (String × Json)}
    (h : member ∈ members) : member.2.height < (object members).height :=
  Nat.lt_succ_of_le (height_le_memberHeights h)

end Json

/-! ## Values of the members -/

def OptionValue.IsFinite : OptionValue → Prop
  | .number (.float x) => x.isFinite = true
  | _ => True

theorem OptionValue.yields_toJson (value : OptionValue) :
    Yields value.toJson.option value.IsFinite value := by
  match value with
  | .flag value => exact yields_ok _
  | .number (.integer value) => exact yields_ok _
  | .text value => exact yields_ok _
  | .number (.float x) =>
    rw [toJson, IsFinite]
    split
    · rename_i h
      exact (yields_ok _).congr (by simp [h])
    · rename_i h
      intro a
      simp [Json.option, h]

theorem Redirection.ofJson_toJson (redirection : Redirection) :
    ofJson redirection.toJson = .ok redirection := by
  match redirection with
  | .inherit => rfl
  | .combined path => rfl
  | .split none none => rfl
  | .split none (some error) => rfl
  | .split (some standard) none => rfl
  | .split (some standard) (some error) => rfl

namespace Setting

variable {α : Type}

/-- A setting that is left out is taken away when it is saved. -/
def saved : Setting α → Setting α
  | .absent => .null
  | setting => setting

theorem saved_saved (setting : Setting α) : setting.saved.saved = setting.saved := by
  cases setting <;> rfl

theorem saved_eq_self_iff {setting : Setting α} : setting.saved = setting ↔ setting ≠ .absent := by
  cases setting <;> simp [saved]

end Setting

namespace Config

/-- A redirection that leaves both streams where they are is written as null. -/
def savedOutput : Setting Redirection → Setting Redirection
  | .given .inherit => .null
  | output => output.saved

theorem savedOutput_eq_self_iff {output : Setting Redirection} :
    savedOutput output = output ↔ output ≠ .absent ∧ output ≠ .given .inherit := by
  match output with
  | .absent => simp [savedOutput, Setting.saved]
  | .null => simp [savedOutput, Setting.saved]
  | .given .inherit => simp [savedOutput]
  | .given (.combined path) => simp [savedOutput, Setting.saved]
  | .given (.split standard error) => simp [savedOutput, Setting.saved]

/-- All numbers among the options are finite. -/
def AreFinite (options : NameMap OptionValue) : Prop :=
  ∀ entry ∈ options.entries, entry.2.IsFinite

section Members

variable {α : Type} {members : List (String × Json)} {name : String}

theorem yields_text (text : String) : Yields (Json.text (.string text)) True text := yields_ok text

theorem yields_record {needed : Nat} {names : List String}
    (h : ∀ member ∈ members, member.1 ∈ names) :
    Yields (jsonFormat.record needed names (.object members)) True members := by
  have hfilter : members.filter (·.1 ∈ names) = members := by simpa using h
  have hrecord : jsonFormat.record needed names (.object members) = .ok members := by
    show Json.record needed names (.object members) = .ok members
    rw [Json.record, hfilter]
  rw [hrecord]
  exact yields_ok members

theorem yields_required {read : Json → Except ShapeError α} {value : Json} {p : Prop} {a : α}
    (hlookup : members.lookup name = some value) (h : Yields (read value) p a) :
    Yields (jsonFormat.required members name read) p a := by
  rw [Format.required, hlookup]
  exact h

theorem yields_orDefault {read : Json → Except ShapeError α} {value : Json} {default : α}
    {p : Prop} {a : α} (hlookup : members.lookup name = some value) (h : Yields (read value) p a) :
    Yields (Format.orDefault members name default read) p a := by
  rw [Format.orDefault, hlookup]
  exact h

theorem yields_template {template : Setting String}
    (hlookup : members.lookup name = some (template.toJson .string)) :
    Yields (jsonFormat.setting members name Json.text) True template.saved := by
  rw [Format.setting, hlookup]
  cases template <;> exact yields_ok _

theorem yields_output {output : Setting Redirection}
    (hlookup : members.lookup name = some (output.toJson Redirection.toJson)) :
    Yields (jsonFormat.setting members name Redirection.ofJson) True (savedOutput output) := by
  rw [Format.setting, hlookup]
  match output with
  | .absent => exact yields_ok _
  | .null => exact yields_ok _
  | .given .inherit => exact yields_ok _
  | .given (.combined path) => exact yields_ok _
  | .given (.split standard error) =>
    have hread := Redirection.ofJson_toJson (.split standard error)
    show Yields (Redirection.ofJson (Redirection.split standard error).toJson >>= fun redirection =>
      pure (Setting.given redirection)) True _
    rw [hread]
    exact yields_pure _

theorem yields_nameMap {read : Json → Except ShapeError α} {write : α → Json} {p : α → Prop}
    (h : ∀ a, Yields (read (write a)) (p a) a) (m : NameMap α) :
    Yields (jsonFormat.nameMap read (m.toJson write)) (∀ entry ∈ m.entries, p entry.2) m := by
  have hentries : Yields ((m.entries.map fun entry => (entry.1, write entry.2)).mapM
      fun entry => do return (entry.1, ← read entry.2))
      (∀ entry ∈ m.entries, p entry.2) (m.entries.map id) :=
    yields_mapM fun entry _ => (h entry.2).map fun value => (entry.1, value)
  have hmap := hentries.map NameMap.ofList
  rw [List.map_id, NameMap.ofList_entries] at hmap
  exact hmap

/-- A map of texts, such as a set of options, is read back from JSON as it was. -/
theorem textMap_toJson (texts : NameMap String) : Json.textMap (texts.toJson .string) = .ok texts :=
  (yields_nameMap yields_text texts texts).2 ⟨fun _ _ => trivial, rfl⟩

end Members

namespace Job

mutual

/-- The job that is read back from a saved one. -/
def saved : Job → Job
  | ⟨type, task, haltOnFailure, options, output, set, jobTemplate, jobTypes, jobs⟩ =>
    ⟨type, task, haltOnFailure, options, savedOutput output, set, jobTemplate.saved, jobTypes,
      savedAll jobs⟩

def savedAll : List Job → List Job
  | [] => []
  | job :: rest => job.saved :: savedAll rest

end

theorem savedAll_eq_map (jobs : List Job) : savedAll jobs = jobs.map saved := by
  induction jobs with
  | nil => rfl
  | cons job rest ih => rw [savedAll, ih, List.map_cons]

theorem listToJson_eq_map (jobs : List Job) : listToJson jobs = jobs.map toJson := by
  induction jobs with
  | nil => rfl
  | cons job rest ih => rw [listToJson, ih, List.map_cons]

/-- The numbers among the options of a job, and among those for the jobs nested in it, are
finite. -/
def HasFiniteNumbers (job : Job) : Prop := AreFinite job.options ∧ AreFinite job.set

theorem height_toJson_lt {child : Job} {jobs : List Job} (h : child ∈ jobs) :
    child.toJson.height < (Json.array (listToJson jobs)).height := by
  rw [listToJson_eq_map]
  exact Json.height_lt_array (List.mem_map_of_mem h)

theorem height_jobs_lt (job : Job) :
    (Json.array (listToJson job.jobs)).height < job.toJson.height := by
  cases job
  rw [toJson]
  exact @Json.height_lt_object ("jobs", _) _ (by simp)

theorem yields_jobs {height : Nat} {jobs : List Job} {p : Job → Prop}
    (h : ∀ job ∈ jobs, Yields (jsonFormat.job height job.toJson) (p job) job.saved) :
    Yields (jsonFormat.items (.array (listToJson jobs)) >>= fun items =>
      items.mapM (jsonFormat.job height)) (∀ job ∈ jobs, p job) (savedAll jobs) := by
  rw [listToJson_eq_map, savedAll_eq_map]
  exact yields_mapM h

/-- The height that a job is read with goes down with each job around another one, and so does that
of what is written. -/
theorem yields_toJson (job : Job) : ∀ {height : Nat}, job.toJson.height ≤ height →
    Yields (jsonFormat.job height job.toJson)
      (∀ node, job.Contains node → node.HasFiniteNumbers) job.saved := by
  induction job using treeInduction with
  | step job ih =>
    intro height hheight
    have hlower := Nat.lt_of_lt_of_le (height_jobs_lt job) hheight
    obtain ⟨type, task, haltOnFailure, options, output, set, jobTemplate, jobTypes, jobs⟩ := job
    cases height with
    | zero => exact absurd hlower (Nat.not_lt_zero _)
    | succ height =>
      have hjobs : ∀ child ∈ jobs, child.toJson.height ≤ height := fun child hchild =>
        Nat.le_of_lt_succ (Nat.lt_trans (height_toJson_lt hchild) hlower)
      rw [toJson, Format.job, saved]
      refine Yields.congr ((yields_record (by simp [Format.jobNames])).bind <|
        (yields_required rfl (yields_text type)).bind <|
        (yields_required rfl (yields_text task)).bind <|
        (yields_orDefault rfl (yields_ok haltOnFailure)).bind <|
        (yields_orDefault rfl (yields_nameMap OptionValue.yields_toJson options)).bind <|
        (yields_output rfl).bind <|
        (yields_orDefault rfl (yields_nameMap OptionValue.yields_toJson set)).bind <|
        (yields_template rfl).bind <|
        (yields_orDefault rfl (yields_nameMap yields_text jobTypes)).bind <|
        (yields_orDefault rfl (yields_jobs fun child hchild =>
          ih child hchild (hjobs child hchild))).map _) ?_
      simp only [true_and, implies_true]
      rw [forall_contains_iff]
      exact and_assoc.symm

end Job

def Entry.saved (entry : Entry) : Entry := ⟨entry.expression, Job.savedAll entry.jobs⟩

theorem Entry.yields_toJson (entry : Entry) {height : Nat} (h : entry.toJson.height ≤ height) :
    Yields (jsonFormat.entry height entry.toJson)
      (∀ job ∈ entry.jobs, ∀ node, job.Contains node → node.HasFiniteNumbers) entry.saved := by
  have hjobs : ∀ job ∈ entry.jobs, job.toJson.height ≤ height := by
    intro job hjob
    have harray : (Json.array (Job.listToJson entry.jobs)).height < entry.toJson.height :=
      @Json.height_lt_object ("jobs", _) _ (by simp)
    exact Nat.le_trans (Nat.le_of_lt (Nat.lt_trans (Job.height_toJson_lt hjob) harray)) h
  rw [toJson, Format.entry, saved]
  refine Yields.congr ((yields_record (by simp [Format.entryNames])).bind <|
    (yields_required rfl (yields_text entry.expression)).bind <|
    (yields_orDefault rfl (Job.yields_jobs fun job hjob =>
      job.yields_toJson (hjobs job hjob))).map _) ?_
  simp only [true_and]

end Config

namespace Config

/-- The configuration that is read back from a saved one. -/
def saved (config : Config) : Config :=
  { config with
    jobTemplate := config.jobTemplate.saved
    output := savedOutput config.output
    entries := config.entries.map Entry.saved }

/-- A job of an entry, at any depth. -/
def Contains (config : Config) (node : Job) : Prop :=
  ∃ entry ∈ config.entries, ∃ job ∈ entry.jobs, job.Contains node

def HasFiniteNumbers (config : Config) : Prop :=
  AreFinite config.set ∧ ∀ job, config.Contains job → job.HasFiniteNumbers

theorem forall_contains_iff {p : Job → Prop} {config : Config} :
    (∀ node, config.Contains node → p node) ↔
      ∀ entry ∈ config.entries, ∀ job ∈ entry.jobs, ∀ node, job.Contains node → p node := by
  constructor
  · exact fun h entry hentry job hjob node hnode => h node ⟨entry, hentry, job, hjob, hnode⟩
  · rintro h node ⟨entry, hentry, job, hjob, hnode⟩
    exact h entry hentry job hjob node hnode

theorem yields_ofJson (config : Config) :
    Yields (ofJson config.toJson) config.HasFiniteNumbers config.saved := by
  have hentries : ∀ entry ∈ config.entries, entry.toJson.height ≤ config.toJson.height := by
    intro entry hentry
    have harray : (Json.array (config.entries.map Entry.toJson)).height < config.toJson.height :=
      @Json.height_lt_object ("every", _) _ (by simp)
    exact Nat.le_of_lt (Nat.lt_trans (Json.height_lt_array (List.mem_map_of_mem hentry)) harray)
  rw [ofJson, Format.config, HasFiniteNumbers, forall_contains_iff, saved]
  refine Yields.congr ((yields_record (by simp [Format.configNames])).bind <|
    (yields_orDefault rfl (p := True) ?path).bind <|
    (yields_orDefault rfl (yields_ok config.defaults)).bind <|
    (yields_template rfl).bind <|
    (yields_output rfl).bind <|
    (yields_orDefault rfl (yields_nameMap OptionValue.yields_toJson config.set)).bind <|
    (yields_orDefault rfl (yields_nameMap yields_text config.jobTypes)).bind <|
    (yields_orDefault rfl (yields_mapM fun entry hentry =>
      entry.yields_toJson (hentries entry hentry))).map _) ?finite
  case path => cases config.path <;> exact yields_ok _
  case finite =>
    simp only [true_and, implies_true]
    rfl

/-! ## Configurations that are kept -/

theorem savedOutput_savedOutput (output : Setting Redirection) :
    savedOutput (savedOutput output) = savedOutput output := by
  match output with
  | .absent => rfl
  | .null => rfl
  | .given .inherit => rfl
  | .given (.combined path) => rfl
  | .given (.split standard error) => rfl

namespace Job

/-- The job says something about its redirection and its wrapping template that can be written. -/
def StatesSettings (job : Job) : Prop :=
  (job.output ≠ .absent ∧ job.output ≠ .given .inherit) ∧ job.jobTemplate ≠ .absent

theorem savedAll_eq_self_iff {jobs : List Job} :
    savedAll jobs = jobs ↔ ∀ job ∈ jobs, job.saved = job := by
  have h := @List.map_inj_left _ _ jobs saved id
  rwa [List.map_id, ← savedAll_eq_map] at h

theorem saved_eq_self_iff {job : Job} :
    job.saved = job ↔ ∀ node, job.Contains node → node.StatesSettings := by
  induction job using treeInduction with
  | step job ih =>
    have hjobs : savedAll job.jobs = job.jobs ↔
        ∀ child ∈ job.jobs, ∀ node, child.Contains node → node.StatesSettings :=
      savedAll_eq_self_iff.trans (forall₂_congr ih)
    rw [forall_contains_iff, ← hjobs, StatesSettings, ← savedOutput_eq_self_iff,
      ← Setting.saved_eq_self_iff]
    cases job
    simp [saved, and_assoc]

theorem savedAll_savedAll {jobs : List Job} (h : ∀ job ∈ jobs, job.saved.saved = job.saved) :
    savedAll (savedAll jobs) = savedAll jobs := by
  rw [savedAll_eq_self_iff, savedAll_eq_map]
  exact List.forall_mem_map.2 h

theorem saved_saved (job : Job) : job.saved.saved = job.saved := by
  induction job using treeInduction with
  | step job ih =>
    obtain ⟨type, task, haltOnFailure, options, output, set, jobTemplate, jobTypes, jobs⟩ := job
    have hjobs := savedAll_savedAll ih
    rw [saved, saved, savedOutput_savedOutput, Setting.saved_saved, hjobs]

theorem hasFiniteNumbers_saved {job : Job} :
    (∀ node, job.saved.Contains node → node.HasFiniteNumbers) ↔
      ∀ node, job.Contains node → node.HasFiniteNumbers := by
  induction job using treeInduction with
  | step job ih =>
    have hjobs : job.saved.jobs = job.jobs.map saved := by
      rw [← savedAll_eq_map]
      cases job
      rfl
    have hself : job.saved.HasFiniteNumbers ↔ job.HasFiniteNumbers := by
      cases job
      rfl
    rw [forall_contains_iff, forall_contains_iff, hself, hjobs, List.forall_mem_map]
    exact and_congr_right' (forall₂_congr ih)

end Job

/-- Every setting that can be left out says something that can be written. -/
def StatesSettings (config : Config) : Prop :=
  (config.output ≠ .absent ∧ config.output ≠ .given .inherit) ∧ config.jobTemplate ≠ .absent ∧
    ∀ job, config.Contains job → job.StatesSettings

theorem saved_eq_self_iff {config : Config} : config.saved = config ↔ config.StatesSettings := by
  have hentry : ∀ entry : Entry, entry.saved = entry ↔
      ∀ job ∈ entry.jobs, ∀ node, job.Contains node → node.StatesSettings := by
    intro entry
    rw [← forall₂_congr fun _ _ => Job.saved_eq_self_iff, ← Job.savedAll_eq_self_iff]
    cases entry
    simp [Entry.saved]
  have hentries : config.entries.map Entry.saved = config.entries ↔
      ∀ job, config.Contains job → job.StatesSettings := by
    have h := @List.map_inj_left _ _ config.entries Entry.saved id
    rw [List.map_id] at h
    rw [h, forall_contains_iff]
    exact forall₂_congr fun entry _ => hentry entry
  rw [StatesSettings, ← hentries, ← savedOutput_eq_self_iff, ← Setting.saved_eq_self_iff]
  cases config
  simp only [saved, Config.mk.injEq, true_and]
  tauto

theorem saved_saved (config : Config) : config.saved.saved = config.saved := by
  have hentry : ∀ entry : Entry, entry.saved.saved = entry.saved := by
    intro entry
    have hjobs := Job.savedAll_savedAll fun job (_ : job ∈ entry.jobs) => job.saved_saved
    rw [Entry.saved, Entry.saved, hjobs]
  have hentries : (config.entries.map Entry.saved).map Entry.saved =
      config.entries.map Entry.saved := by
    rw [List.map_map]
    exact List.map_congr_left fun entry _ => hentry entry
  rw [saved, saved, savedOutput_savedOutput, Setting.saved_saved, hentries]

theorem hasFiniteNumbers_saved {config : Config} :
    config.saved.HasFiniteNumbers ↔ config.HasFiniteNumbers := by
  have hentry : ∀ entry : Entry,
      (∀ job ∈ entry.saved.jobs, ∀ node, job.Contains node → node.HasFiniteNumbers) ↔
        ∀ job ∈ entry.jobs, ∀ node, job.Contains node → node.HasFiniteNumbers := by
    intro entry
    rw [Entry.saved, Job.savedAll_eq_map, List.forall_mem_map]
    exact forall₂_congr fun _ _ => Job.hasFiniteNumbers_saved
  rw [HasFiniteNumbers, HasFiniteNumbers, forall_contains_iff, forall_contains_iff]
  refine and_congr_right' ?_
  rw [saved, List.forall_mem_map]
  exact forall₂_congr fun entry _ => hentry entry

end Config

end CrontabRenderer
