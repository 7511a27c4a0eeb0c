import CrontabRenderer.Job
import CrontabRenderer.Proofs.Template.Insertion

/-!
# The options of a job type

The options listed for a job type are the names that filling its template looks up, except for the
name of the command in a wrapping template. That name is no other than the rest in the template of a
job type, so the list is complete just if the template does not have it (`optionNames_fill`).
-/
namespace CrontabRenderer.JobType

open Template (taskReserved jobName taskName namesOf piecesOf mem_placeholders)

theorem eraseDups_filter (p : String → Bool) (names : List String) :
    (names.filter p).eraseDups = names.eraseDups.filter p := by
  -- Erasing the later copies of the first name leaves a shorter list.
  induction hlength : names.length using Nat.strong_induction_on generalizing names with
  | _ n ih =>
    cases names with
    | nil => rfl
    | cons name names =>
      have hshort : (names.filter fun other => !other == name).length < n :=
        hlength ▸ Nat.lt_succ_of_le (List.length_filter_le ..)
      have hrest := ih _ hshort _ rfl
      rw [List.filter_filter] at hrest
      rw [List.eraseDups_cons]
      cases hp : p name with
      | true =>
        rw [List.filter_cons_of_pos hp, List.filter_cons_of_pos hp, List.eraseDups_cons,
          ← hrest, List.filter_filter]
        simp only [Bool.and_comm]
      | false =>
        have hne : ∀ other ∈ names, (p other && !other == name) = p other := by
          intro other _
          by_cases hother : other = name <;> simp [hother, hp]
        rw [List.filter_cons_of_neg (by simp [hp]), List.filter_cons_of_neg (by simp [hp]),
          ← hrest, List.filter_congr hne]

/-- The names that filling the template looks up, in order and with repeats. -/
theorem requested_fill (type : JobType) (task : String) (lookup : String → Option String) :
    (Template.filling (taskReserved task) type.template lookup).requested =
      (namesOf (piecesOf type.template.toList)).filter (· ≠ taskName) := by
  rw [Template.requested_filling]
  apply List.filter_congr
  intro name _
  by_cases hname : name = taskName <;> simp [taskReserved, hname]

theorem optionNames_eq_filter (type : JobType) (task : String) (lookup : String → Option String) :
    type.optionNames =
      (Template.filling (taskReserved task) type.template lookup).requested.eraseDups.filter
        (· ≠ jobName) := by
  rw [requested_fill, eraseDups_filter, List.filter_filter, optionNames, Template.placeholders]
  apply List.filter_congr
  intro name _
  simp [Bool.and_comm]

theorem mem_optionNames {type : JobType} {name : String} :
    name ∈ type.optionNames ↔
      name ∈ Template.placeholders type.template ∧ name ≠ taskName ∧ name ≠ jobName := by
  simp [optionNames]

theorem mem_requested {type : JobType} {name task : String} {lookup : String → Option String} :
    name ∈ (Template.filling (taskReserved task) type.template lookup).requested ↔
      name ∈ Template.placeholders type.template ∧ name ≠ taskName := by
  rw [requested_fill, List.mem_filter, mem_placeholders, Template.mem_namesOf, decide_eq_true_iff]

theorem length_le_fill {template name value : String} {lookup : String → Option String}
    (hname : name ∈ Template.placeholders template) (hreserved : name ≠ taskName)
    (hvalue : lookup name = some value) (task : String) :
    value.toList.length ≤ (Template.fill template task lookup).toList.length := by
  rw [Template.fill, String.toList_ofList, Template.text_filling]
  apply Template.length_le_filledPieces (mem_placeholders.1 hname)
  simp [taskReserved, hreserved, hvalue]

/-- A name that is looked up changes the command with a value longer than the command. -/
theorem exists_fill_insert_ne {template name : String}
    (hname : name ∈ Template.placeholders template) (hreserved : name ≠ taskName)
    (task : String) (options : OptionSet) :
    ∃ value, Template.fill template task (options.insert name value).find? ≠
      Template.fill template task options.find? := by
  obtain ⟨value, hlonger⟩ : ∃ value : String,
      (Template.fill template task options.find?).toList.length < value.toList.length :=
    ⟨.ofList (List.replicate (_ + 1) 'x'), by
      rw [String.toList_ofList, List.length_replicate]
      exact Nat.lt_succ_self _⟩
  refine ⟨value, fun hsame => ?_⟩
  have hlength := length_le_fill hname hreserved (NameMap.find?_insert_self options name value) task
  rw [hsame] at hlength
  omega

/-- Commands are the same if the names that are looked up have the same values. -/
theorem fill_congr {type : JobType} {lookup lookup' : String → Option String}
    (hlisted : ∀ name ∈ type.optionNames, lookup name = lookup' name)
    (hjob : jobName ∈ Template.placeholders type.template → lookup jobName = lookup' jobName)
    (task : String) :
    Template.fill type.template task lookup = Template.fill type.template task lookup' := by
  unfold Template.fill
  congr 1
  apply Template.text_filling_congr
  intro name hname hreserved
  have htask : name ≠ taskName := by
    rintro rfl
    simp [taskReserved] at hreserved
  by_cases hname' : name = jobName
  · subst hname'
    exact hjob hname
  · exact hlisted name (mem_optionNames.2 ⟨hname, htask, hname'⟩)

/-- The options listed for a job type are the distinct names that filling its template looks up, in
the order they are first looked up, without the name `job`. They are all of them, and commands with
the same values of them are the same, just if the template has no placeholder of that name. Each
option of the list changes the command, whatever the values are. -/
theorem optionNames_fill (type : JobType) :
    (∀ (task : String) (lookup : String → Option String), type.optionNames =
      (Template.filling (taskReserved task) type.template lookup).requested.eraseDups.filter
        (· ≠ "job")) ∧
    ((∀ (task : String) (lookup : String → Option String), type.optionNames =
      (Template.filling (taskReserved task) type.template lookup).requested.eraseDups) ↔
        "job" ∉ Template.placeholders type.template) ∧
    (∀ (task : String) (lookup lookup' : String → Option String),
      (∀ name ∈ type.optionNames, lookup name = lookup' name) →
      ("job" ∈ Template.placeholders type.template → lookup "job" = lookup' "job") →
        Template.fill type.template task lookup = Template.fill type.template task lookup') ∧
    ((∀ (task : String) (options options' : OptionSet),
      (∀ name ∈ type.optionNames, options.find? name = options'.find? name) →
        Template.fill type.template task options.find? =
          Template.fill type.template task options'.find?) ↔
        "job" ∉ Template.placeholders type.template) ∧
    ∀ name ∈ type.optionNames, ∀ (task : String) (options : OptionSet), ∃ value,
      Template.fill type.template task (options.insert name value).find? ≠
        Template.fill type.template task options.find? := by
  have hunlisted : "job" ∉ type.optionNames := fun h => (mem_optionNames.1 h).2.2 rfl
  refine ⟨fun task lookup => type.optionNames_eq_filter task lookup, ⟨?_, ?_⟩, ?_, ⟨?_, ?_⟩, ?_⟩
  · intro hall hjob
    rw [hall "" fun _ => none, List.mem_eraseDups, mem_requested] at hunlisted
    exact hunlisted ⟨hjob, by decide⟩
  · intro hjob task lookup
    rw [type.optionNames_eq_filter task lookup, List.filter_eq_self]
    intro name hname
    have hname := (mem_requested.1 (List.mem_eraseDups.1 hname)).1
    have hne : name ≠ "job" := fun heq => hjob (heq ▸ hname)
    exact decide_eq_true hne
  · intro task lookup lookup' hlisted hjob
    exact fill_congr hlisted hjob task
  · intro hsame hjob
    obtain ⟨value, hne⟩ := exists_fill_insert_ne hjob (by decide) "" ∅
    refine hne (hsame "" _ _ fun name hname => ?_)
    have hother : name ≠ "job" := fun heq => hunlisted (heq ▸ hname)
    simp [hother]
  · intro hjob task options options' hlisted
    exact fill_congr hlisted (fun h => absurd h hjob) task
  · intro name hname task options
    obtain ⟨hmem, htask, -⟩ := mem_optionNames.1 hname
    exact exists_fill_insert_ne hmem htask task options

/-- The template looks up an option that is not listed, and the command changes with its value. -/
theorem optionNames_omit_job :
    let type : JobType := ⟨"run", "run :job"⟩
    let options : OptionSet := .ofList [("job", "backup")]
    type.optionNames = [] ∧
      (Template.filling (taskReserved "all") type.template options.find?).requested = ["job"] ∧
      Template.fill type.template "all" options.find? = "run backup" ∧
      Template.fill type.template "all" (∅ : OptionSet).find? = "run :job" := by
  decide +kernel

end CrontabRenderer.JobType
