import CrontabRenderer.Proofs.Config.Options
import CrontabRenderer.Proofs.Plan.Mirror
import CrontabRenderer.Proofs.Scope.Blocks
import CrontabRenderer.Proofs.Template.Unquoted

/-!
# Numbers as options

What a number under `set` or `options` puts into commands, at any depth: the canonical text of the
number (`Config.plan_number`). The file's spelling is kept just if it is the canonical one.
-/
namespace CrontabRenderer

namespace ScopeStack

/-- Nested blocks are, for the jobs in them, the same as their declarations in one scope. -/
theorem flattens_under (scope : Scope) (blocks : List Block) :
    (under ⟨scope, []⟩ blocks).Flattens (scope.declareAll blocks.reverse.flatten) := by
  induction blocks with
  | nil => exact flattens_root scope
  | cons block blocks ih =>
    rw [under_cons, List.reverse_cons, List.flatten_append, Scope.declareAll_append,
      List.flatten_singleton]
    exact ih.enter block

end ScopeStack

namespace Template

/-- Wherever the template has the placeholder of the name, the text has the value, between what the
rest of the template becomes. -/
def Puts (template : String) (value? : String → Option String) (name value text : String) : Prop :=
  ∀ left right, IsFactoring template.toList (left ++ .placeholder name :: right) →
    text.toList = textBefore value? left (.placeholder name :: right) ++
      (value.toList ++ textBehind value? (left ++ [.placeholder name]) right)

/-- Only quotation marks in a value are escaped. -/
theorem IsFilled.puts {template text name value : String} {value? : String → Option String}
    (h : IsFilled template value? text) (hvalue : value? name = some value)
    (hmarks : ∀ quote : Quote, quote.mark ∉ value.toList) : Puts template value? name value text := by
  intro left right hpieces
  have hverbatim := (hpieces.insertion_eq_self_iff value).1.2 fun quote _ => hmarks quote
  rw [h.toList_eq hpieces, filledPieces_append_placeholder hvalue, hverbatim]

end Template

namespace Config

/-- The setting of an option for a job with these ancestors: its own, or else that of the nearest
block around it, or else that of the file. -/
def setting? (config : Config) (ancestors : List Job) (job : Job) (name : String) :
    Option OptionValue :=
  (job.options.find? name)
    |>.or (ancestors.reverse.findSome? fun ancestor => ancestor.set.find? name)
    |>.or (config.set.find? name)

theorem findSome?_optionText? (ancestors : List Job) (name : String) :
    (ancestors.findSome? fun ancestor => optionText? ancestor.set name) =
      (ancestors.findSome? fun ancestor => ancestor.set.find? name).map OptionValue.toText := by
  induction ancestors with
  | nil => rfl
  | cons ancestor ancestors ih =>
    rw [List.findSome?_cons, List.findSome?_cons, optionText?, ih]
    cases ancestor.set.find? name <;> rfl

/-- The text of a setting is the value of the option, if no redirection of the job takes its
place. -/
theorem value?_of_setting? {config : Config} {defaultPath : String} {ancestors : List Job} {job : Job}
    {name : String} {setting : OptionValue}
    (hsetting : config.setting? ancestors job name = some setting)
    (houtput : name = "output" → job.output = .absent) :
    config.value? defaultPath ancestors job name = some setting.toText := by
  have hjob : (if name = "output" then outputText? job.output else none) = none := by
    split
    · rename_i hname
      rw [houtput hname]
      rfl
    · rfl
  have hmap : ((optionText? job.options name).or
      (ancestors.reverse.findSome? fun ancestor => optionText? ancestor.set name)).or
        (optionText? config.set name) = some setting.toText := by
    rw [findSome?_optionText?, optionText?, optionText?, ← Option.map_or, ← Option.map_or, ← setting?,
      hsetting, Option.map_some]
  rw [value?, hjob, Option.none_or, hmap, Option.some_or, Option.some_or]

theorem scope_of_plan {config : Config} {defaultPath : String} {plan : Plan}
    (h : config.plan defaultPath = .ok plan) : plan.scope = config.topScope defaultPath := by
  obtain ⟨list, hlist, h⟩ := bind_eq_ok_iff.1 h
  cases h
  obtain ⟨entries, -, h⟩ := bind_eq_ok_iff.1 hlist
  cases h
  rfl

end Config

/-- The scopes in which the jobs nested in these ancestors are rendered. The outermost ancestor comes
first. -/
def Plan.stackUnder (plan : Plan) (ancestors : List Config.Job) : ScopeStack :=
  ScopeStack.under ⟨plan.scope, []⟩
    (ancestors.map fun job => (Config.Job.toJob job).declarations).reverse

namespace Config

theorem resolve_stackUnder {config : Config} {defaultPath : String} {plan : Plan}
    (h : config.plan defaultPath = .ok plan) (ancestors : List Job) (job : Job) (name : String) :
    ((plan.stackUnder ancestors).resolver (Job.toJob job).options).resolve name =
      config.value? defaultPath ancestors job name := by
  have hflat := ScopeStack.flattens_under plan.scope
    (ancestors.map fun job => (Job.toJob job).declarations).reverse
  have hblocks : (ancestors.map fun job => (Job.toJob job).declarations).reverse.reverse.flatten =
      ancestors.flatMap Job.block := by
    rw [List.reverse_reverse, List.flatMap_def]
    simp
  rw [hblocks, scope_of_plan h] at hflat
  rw [Plan.stackUnder, scope_of_plan h, hflat.resolve, Job.options_toJob]
  exact config.resolve_scopeUnder defaultPath ancestors job name

/-- A plain scalar that reads as a number is a number in every map of options that has it as the last
value of a name. Where a number is the setting of an option for a job, at any depth of any plan, the
templates filled for the job get the text of the number, as it is. This is the scalar's own text just
if that is the canonical spelling of the number. -/
theorem plan_number {s : String} {value : Yaml.Value} {n : Number}
    (hread : Yaml.Value.ofPlain s = .ok value) (hnumber : value.number? = some n) :
    (∀ (document : Yaml.Document) (part : Yaml.Part) (before after : List (String × Yaml.Part))
        (name : String) (room : Nat) (map : NameMap OptionValue) (state middle state' : Nat),
      yamlFormat.members part document state =
        .ok (before ++ (name, ⟨.scalar ⟨none, s, .plain⟩, room⟩) :: after, middle) →
      name ∉ after.map (·.1) →
      yamlFormat.nameMap yamlFormat.option part document state = .ok (map, state') →
      map.find? name = some (.number n)) ∧
    (∀ (config : Config) (defaultPath : String) (plan : Plan),
      config.plan defaultPath = .ok plan →
      ∀ (ancestors : List Job) (job : Job) (name : String),
        config.setting? ancestors job name = some (.number n) →
        (name = "output" → job.output = .absent) → name ≠ "task" →
        let lookup := ((plan.stackUnder ancestors).resolver (Job.toJob job).options).resolve
        (∀ template, Template.Puts template
          (fun name => (Template.taskReserved job.task name).or (lookup name)) name n.text
          (Template.fill template job.task lookup)) ∧
        (name ≠ "job" → ∀ wrapper command, Template.Puts wrapper
          (fun name => (Template.jobReserved command job.task name).or (lookup name)) name n.text
          (Template.wrap wrapper command job.task lookup))) ∧
    (n.text = s ↔ Number.IsSpelling s.toList n) := by
  refine ⟨?_, ?_, Number.text_eq_iff hread hnumber⟩
  · intro document part before after name room map state middle state' hmembers hlast hmap
    obtain ⟨option, start, stop, hoption, hfind⟩ :=
      Yaml.Decode.find?_nameMap hmembers hlast hmap
    have hscalar : Yaml.Decode.option ⟨.scalar ⟨none, s, .plain⟩, room⟩ document start =
        .ok (.number n, start) := Yaml.Decode.option_plain hread hnumber room
    have hsame : Yaml.Decode.option ⟨.scalar ⟨none, s, .plain⟩, room⟩ document start =
        .ok (option, stop) := hoption
    rw [hscalar] at hsame
    cases hsame
    exact hfind
  · intro config defaultPath plan hplan ancestors job name hsetting houtput htask lookup
    have hlookup : lookup name = some n.text :=
      (resolve_stackUnder hplan ancestors job name).trans (value?_of_setting? hsetting houtput)
    have hmarks (quote : Template.Quote) : quote.mark ∉ n.text.toList := n.mark_notMem_text quote
    have hreserved : Template.taskReserved job.task name = none := if_neg htask
    refine ⟨fun template => (Template.IsFilled.fill job.task lookup).puts ?_ hmarks,
      fun hjob wrapper command => (Template.IsFilled.wrap command job.task lookup).puts ?_ hmarks⟩
    · simp [hreserved, hlookup]
    · have hjobReserved : Template.jobReserved command job.task name = none :=
        (if_neg hjob).trans hreserved
      simp [hjobReserved, hlookup]

/-- A number of the block around a job keeps its sign and its digits in the job's command. -/
theorem plan_number_negative :
    let inner : Job :=
      { type := "say", task := "b", haltOnFailure := true, options := ∅, output := .absent,
        set := ∅, jobTemplate := .absent, jobTypes := ∅, jobs := [] }
    let outer : Job :=
      { inner with set := .ofList [("shift", .number (.integer (-17)))], jobs := [inner] }
    let config : Config :=
      { path := none, defaults := false, jobTemplate := .absent, output := .absent,
        set := .ofList [("shift", .flag true)], jobTypes := ∅, entries := [⟨"@daily", [outer]⟩] }
    Yaml.Value.ofPlain "-17" = .ok (.integer ⟨true, 17⟩) ∧
      ∃ plan, config.plan "/home" = .ok plan ∧
        Template.fill "move :shift days" "b"
          ((plan.stackUnder [outer]).resolver (Job.toJob inner).options).resolve =
            "move -17 days" := by
  intro inner outer config
  have hread : Yaml.Value.ofPlain "-17" = .ok (.integer ⟨true, 17⟩) := by rfl
  have hvalid : config.validate = .ok () := by decide +kernel
  obtain ⟨plan, hplan, -⟩ := exists_plan_of_validate hvalid "/home"
  refine ⟨hread, plan, hplan, ?_⟩
  have hnumber : (Yaml.Value.integer ⟨true, 17⟩).number? = some (.integer (-17)) := rfl
  obtain ⟨-, hplanned, hkept⟩ := plan_number hread hnumber
  have htext : (Number.integer (-17)).text = "-17" :=
    hkept.2 (.inr ⟨['1', '7'], rfl, Decimal.isCanonical_digits 17, by decide⟩)
  have hsetting : config.setting? [outer] inner "shift" = some (.number (.integer (-17))) := rfl
  obtain ⟨hfill, -⟩ := hplanned config "/home" plan hplan [outer] inner "shift" hsetting (by decide)
    (by decide)
  have hpieces : Template.IsFactoring "move :shift days".toList
      ("move ".toList.map .literal ++ .placeholder "shift" :: " days".toList.map .literal) :=
    Template.isFactoring_iff.2 (by decide +kernel)
  have hput := hfill _ _ _ hpieces
  rw [htext] at hput
  apply String.toList_injective
  simpa [Template.textBefore, Template.textBehind, Template.filledBetween,
    Template.Piece.filled] using hput

/-- A version loses the zero at its end. -/
theorem plan_number_respelled :
    let text := "\n".intercalate
      ["job_template: ~",
        "set:",
        "  v: 1.10",
        "job_types:",
        "  say: \":v\"",
        "every:",
        "- at: \"@daily\"",
        "  jobs:",
        "  - job: say",
        "    task: x"]
    let commands := (ofText none text).toOption.bind fun config =>
      (config.plan "/home").toOption.bind fun plan =>
        plan.list.entries.mapM fun entry =>
          (plan.scope.renderEntry entry).toOption.map (·.commands)
    commands = some [["1.1"]] ∧ commands ≠ some [["1.10"]] := by
  decide +kernel

end Config

end CrontabRenderer
