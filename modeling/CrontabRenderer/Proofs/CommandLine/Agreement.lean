import CrontabRenderer.CommandLine.Outcome
import CrontabRenderer.Proofs.Render.Failure

/-!
# Commands that agree

Validating renders each entry of a file by itself and goes on behind one that fails; rendering stops
at the first that does; listing renders none. Each loads the file anew, with a path of its own. The
path is the value of an option and no part of the names of job types, so it changes neither whether
a file loads nor what its entries fail with (`Plan.ofFile_path`). What validating counts and logs
are therefore the errors of which rendering stops with the first (`CommandLine.run_agree`).
-/
namespace CrontabRenderer

/-- The entries that fail, each rendered by itself, with their errors. -/
def Plan.faults (plan : Plan) : List (Entry × RenderError) :=
  errorsOf plan.scope.renderEntry plan.list.entries

/-! ## Plans with another path -/

namespace Scope

theorem errorsOf_renderEntry_congr {base base' : Scope}
    (hknown : ∀ name, base.Knows name ↔ base'.Knows name) (list : JobList) :
    errorsOf (base.forList list).renderEntry list.entries =
      errorsOf (base'.forList list).renderEntry list.entries := by
  have hscope : (base.forList list).Knows = (base'.forList list).Knows := by
    funext name
    simp only [knows_forList_eq, hknown]
  apply errorsOf_congr
  intro entry e
  rw [renderEntry_eq_error_iff, renderEntry_eq_error_iff, hscope]

end Scope

namespace Plan

/-- The path is an option, not a job type. -/
theorem knows_base (config : Config) (path path' name : String) :
    (config.base path).Knows name ↔ (config.base path').Knows name := by
  unfold Scope.Knows Config.base
  split
  · unfold Scope.stock
    simp only
  · unfold Scope.setOption
    simp only

/-- What a file holds, before it is given a path. -/
def content (file : String) (text : Except FileError String) :
    Except ConfigError (Config × JobList) :=
  match text with
  | .error error => .error (.unreadable file error)
  | .ok text => do
    let config ← Config.ofText (some file) text
    return (config, ← config.jobList)

theorem ofFile_eq_map (file : String) (text : Except FileError String) (path : String) :
    ofFile file text path = (content file text).map fun (config, list) =>
      ⟨config.base path, list⟩ := by
  cases text with
  | error e => rfl
  | ok text =>
    unfold ofFile content
    simp only
    cases Config.ofText (some file) text with
    | error e => rfl
    | ok config =>
      simp only [bind, Except.bind, Config.plan]
      cases config.jobList <;> rfl

/-- A file that loads with one path loads with every path, and its entries fail alike. -/
theorem ofFile_path {file : String} {text : Except FileError String} {path : String} {plan : Plan}
    (h : ofFile file text path = .ok plan) (path' : String) :
    ∃ plan', ofFile file text path' = .ok plan' ∧ plan'.faults = plan.faults := by
  rw [ofFile_eq_map] at h
  obtain ⟨⟨config, list⟩, hheld, rfl⟩ := map_eq_ok_iff.1 h
  rw [ofFile_eq_map]
  exact ⟨⟨config.base path', list⟩, map_eq_ok_iff.2 ⟨_, hheld, rfl⟩,
    Scope.errorsOf_renderEntry_congr (knows_base config path' path) list⟩

theorem renderList_eq_error_iff {plan : Plan} {e : RenderError} :
    plan.base.renderList plan.list = .error e ↔ ∃ entry, plan.faults.head? = some (entry, e) :=
  mapM_eq_error_iff_head?

theorem failures_eq_map_faults (plan : Plan) : plan.failures = plan.faults.map (·.1) := by
  unfold failures faults
  induction plan.list.entries with
  | nil => rfl
  | cons entry entries ih =>
    cases h : plan.scope.renderEntry entry with
    | ok rendered =>
      rw [errorsOf_cons_of_ok h, List.filter_cons_of_neg (by simp [h, Except.toBool]), ih]
    | error e =>
      rw [errorsOf_cons_of_error h, List.filter_cons_of_pos (by simp [h, Except.toBool]), ih]
      rfl

end Plan

namespace CommandLine

/-! ## Outcomes -/

namespace Outcome

/-- The errors in the log. -/
def errors (outcome : Outcome) : List LogLine := outcome.log.filter (·.level = .error)

/-- The line for an entry that fails. -/
def faultLine (fault : Entry × RenderError) : LogLine :=
  ⟨.error, "  - " ++ fault.1.schedule.expression ++ ": " ++ fault.2.message⟩

/-- What the program fails with when it reports how many entries fail. -/
def faultCount (faults : List (Entry × RenderError)) : String :=
  toString faults.length ++ " entry(ies) failed to render"

/-- Rendering writes a text that is made of all the entries, or fails with the first error. -/
theorem exists_render_eq (plan : Plan) (json : Bool) : ∃ text : List RenderedEntry → String,
    render plan json = .ofRendering ((plan.base.renderList plan.list).map text) := by
  cases json with
  | true => exact ⟨_, rfl⟩
  | false =>
    refine ⟨fun entries => String.join ((Crontab.lines entries).map (· ++ "\n")), ?_⟩
    unfold render Crontab.render
    cases plan.base.renderList plan.list <;> rfl

section

variable (plan : Plan) (json : Bool) (opening : List LogLine)

theorem render_reports :
    ((render plan json).code = 0 ↔ plan.faults = []) ∧
      (render plan json).reason = plan.faults.head?.map fun fault => fault.2.message := by
  obtain ⟨text, htext⟩ := exists_render_eq plan json
  rw [htext]
  cases h : plan.base.renderList plan.list with
  | error e =>
    obtain ⟨entry, hhead⟩ := Plan.renderList_eq_error_iff.1 h
    have hne : plan.faults ≠ [] := by
      intro hnil
      simp [hnil] at hhead
    simp [ofRendering, Except.map, failure, hhead, hne]
  | ok entries =>
    have hnil : plan.faults = [] := exists_mapM_eq_ok_iff_errorsOf.1 ⟨entries, h⟩
    simp [ofRendering, Except.map, success, hnil]

theorem validate_reports :
    ((validate plan opening).code = 0 ↔ plan.faults = []) ∧
      (validate plan opening).reason =
        if plan.faults = [] then none else some (faultCount plan.faults) := by
  unfold validate
  rw [Plan.failures_eq_map_faults, List.length_map]
  cases h : plan.faults with
  | nil => simp
  | cons fault faults => simp [failure, faultCount]

/-- The errors that validating logs are those of the entries that fail, in their order. -/
theorem errors_validate :
    (validate plan opening).errors =
      opening.filter (·.level = .error) ++ plan.faults.map faultLine := by
  have hlines : (plan.list.entries.map (validationLine plan.scope)).filter (·.level = .error) =
      plan.faults.map faultLine := by
    unfold Plan.faults
    induction plan.list.entries with
    | nil => rfl
    | cons entry entries ih =>
      cases h : plan.scope.renderEntry entry with
      | ok rendered =>
        rw [errorsOf_cons_of_ok h, List.map_cons,
          List.filter_cons_of_neg (by simp [validationLine, h]), ih]
      | error e =>
        rw [errorsOf_cons_of_error h, List.map_cons,
          List.filter_cons_of_pos (by simp [validationLine, h]), ih, List.map_cons]
        simp [validationLine, h, faultLine]
  unfold errors validate
  split
  · simp [hlines]
  · simp [hlines]

theorem output_render (h : (render plan json).code ≠ 0) : (render plan json).output = "" := by
  obtain ⟨text, htext⟩ := exists_render_eq plan json
  rw [htext] at h ⊢
  cases hrender : plan.base.renderList plan.list with
  | error e => rfl
  | ok entries =>
    rw [hrender] at h
    exact absurd rfl h

theorem output_validate : (validate plan opening).output = "" := by
  unfold validate
  split <;> rfl

theorem code_list (file : String) (now : Instant) : (list plan file now).code = 0 := by
  unfold list
  split <;> rfl

end

end Outcome

section Requests

variable {surroundings : Surroundings} {file : String} {path : Option String}

theorem Surroundings.plan_path (path' : Option String) {plan : Plan}
    (h : surroundings.plan file path = .ok plan) :
    ∃ plan', surroundings.plan file path' = .ok plan' ∧ plan'.faults = plan.faults :=
  Plan.ofFile_path h (path'.getD surroundings.workingDirectory)

/-- Whether there is a plan whose entries fail in some way does not depend on the path. -/
theorem Surroundings.exists_plan_iff (surroundings : Surroundings) (file : String)
    (path path' : Option String) (p : List (Entry × RenderError) → Prop) :
    (∃ plan, surroundings.plan file path = .ok plan ∧ p plan.faults) ↔
      ∃ plan, surroundings.plan file path' = .ok plan ∧ p plan.faults := by
  constructor
  · rintro ⟨plan, hplan, hp⟩
    obtain ⟨plan', hplan', hsame⟩ := plan_path path' hplan
    exact ⟨plan', hplan', hsame ▸ hp⟩
  · rintro ⟨plan, hplan, hp⟩
    obtain ⟨plan', hplan', hsame⟩ := plan_path path hplan
    exact ⟨plan', hplan', hsame ▸ hp⟩

theorem Request.code_validate_iff (path : Option String) :
    ((Request.validate file).outcome surroundings).code = 0 ↔
      ∃ plan, surroundings.plan file path = .ok plan ∧ plan.faults = [] := by
  rw [surroundings.exists_plan_iff file path none (· = [])]
  cases hplan : surroundings.plan file none with
  | error e => simp [outcome, hplan, Outcome.failure]
  | ok plan => simp [outcome, hplan, (Outcome.validate_reports plan _).1]

theorem Request.code_render_iff {json : Bool} :
    ((Request.render file json path).outcome surroundings).code = 0 ↔
      ∃ plan, surroundings.plan file path = .ok plan ∧ plan.faults = [] := by
  cases hplan : surroundings.plan file path with
  | error e => simp [outcome, hplan, Outcome.failure]
  | ok plan => simp [outcome, hplan, (Outcome.render_reports plan json).1]

theorem Request.code_list_iff (path : Option String) :
    ((Request.list file).outcome surroundings).code = 0 ↔
      ∃ plan, surroundings.plan file path = .ok plan := by
  have hpath := surroundings.exists_plan_iff file path none fun _ => True
  simp only [and_true] at hpath
  rw [hpath]
  cases hplan : surroundings.plan file none with
  | error e => simp [outcome, hplan, Outcome.failure]
  | ok plan => simp [outcome, hplan, Outcome.code_list]

theorem Request.output_outcome {request : Request} (h : (request.outcome surroundings).code ≠ 0) :
    (request.outcome surroundings).output = "" := by
  cases request with
  | help topic => exact absurd rfl h
  | version => exact absurd rfl h
  | render file json path =>
    cases hplan : surroundings.plan file path with
    | error e => simp only [outcome, hplan, Outcome.failure]
    | ok plan =>
      simp only [outcome, hplan] at h ⊢
      exact Outcome.output_render plan json h
  | validate file =>
    cases hplan : surroundings.plan file none with
    | error e => simp only [outcome, hplan, Outcome.failure]
    | ok plan =>
      simp only [outcome, hplan]
      exact Outcome.output_validate plan _
  | list file =>
    cases hplan : surroundings.plan file none with
    | error e => simp only [outcome, hplan, Outcome.failure]
    | ok plan => exact absurd ((code_list_iff none).2 ⟨plan, hplan⟩) h

end Requests

/-- Nothing is written if the program fails, whatever it is called with. -/
theorem output_run {surroundings : Surroundings} {arguments : List String}
    (h : (run surroundings arguments).code ≠ 0) : (run surroundings arguments).output = "" := by
  unfold run at h ⊢
  cases hrequest : Request.ofArguments arguments with
  | error e => rfl
  | ok request =>
    simp only [hrequest] at h ⊢
    exact Request.output_outcome h

/-- Of one file, validating and rendering fail alike, with every path and in both forms, and listing
fails just if the file does not load. What is validated are the entries as they fail one by one: the
errors in the log are theirs, the reason counts them, and the first of them is the error that
rendering stops with. A call that fails writes nothing. -/
theorem run_agree (surroundings : Surroundings) {file : String} {json : Bool}
    {path : Option String} {forValidation forRendering forListing : List String}
    (hvalidation : Request.ofArguments forValidation = .ok (.validate file))
    (hrendering : Request.ofArguments forRendering = .ok (.render file json path))
    (hlisting : Request.ofArguments forListing = .ok (.list file)) :
    let validation := run surroundings forValidation
    let rendering := run surroundings forRendering
    let listing := run surroundings forListing
    (validation.code = 0 ↔ rendering.code = 0) ∧
    (rendering.code = 0 → listing.code = 0) ∧
    (∀ other, listing.code = 0 ↔ ∃ plan, surroundings.plan file other = .ok plan) ∧
    (∀ arguments, (run surroundings arguments).code ≠ 0 →
      (run surroundings arguments).output = "") ∧
    ∀ plan, surroundings.plan file none = .ok plan →
      (validation.code = 0 ↔ plan.faults = []) ∧
      validation.errors = plan.faults.map Outcome.faultLine ∧
      validation.reason =
        (if plan.faults = [] then none else some (Outcome.faultCount plan.faults)) ∧
      rendering.reason = (plan.faults.head?.map fun fault => fault.2.message) ∧
      ∃ plan', surroundings.plan file path = .ok plan' ∧ plan'.faults = plan.faults ∧
        ∀ e, plan'.base.renderList plan'.list = .error e ↔
          ∃ entry, plan.faults.head? = some (entry, e) := by
  intro validation rendering listing
  have hvalidated : validation = (Request.validate file).outcome surroundings := by
    simp only [validation, run, hvalidation]
  have hrendered : rendering = (Request.render file json path).outcome surroundings := by
    simp only [rendering, run, hrendering]
  have hlisted : listing = (Request.list file).outcome surroundings := by
    simp only [listing, run, hlisting]
  refine ⟨?_, ?_, fun other => ?_, fun arguments => output_run, fun plan hplan => ?_⟩
  · rw [hvalidated, hrendered, Request.code_validate_iff path, Request.code_render_iff]
  · rw [hrendered, hlisted, Request.code_render_iff, Request.code_list_iff path]
    rintro ⟨plan, hplan, -⟩
    exact ⟨plan, hplan⟩
  · rw [hlisted]
    exact Request.code_list_iff other
  · obtain ⟨plan', hplan', hsame⟩ := Surroundings.plan_path path hplan
    rw [hvalidated, hrendered, ← hsame]
    simp only [Request.outcome, hplan, hplan']
    let opening : LogLine := ⟨.info, "Validating schedule: " ++ file⟩
    have hopening : [opening].filter (·.level = .error) = [] := by simp [opening]
    obtain ⟨hcode, hreason⟩ := Outcome.validate_reports plan [opening]
    rw [hcode, hreason, Outcome.errors_validate, hopening, List.nil_append,
      (Outcome.render_reports plan' json).2, ← hsame]
    exact ⟨Iff.rfl, rfl, rfl, rfl, plan', rfl, rfl, fun e => Plan.renderList_eq_error_iff⟩

/-- The only job of a file has no type. The file loads, and can be listed, but not rendered. -/
theorem run_agree_undefined_type :
    let surroundings : Surroundings :=
      { read := fun _ => .ok "every:\n- at: 30 5 * * 7\n  jobs:\n  - job: ruby\n    task: clean\n"
        workingDirectory := "/srv/app"
        now := .ofSeconds 0 }
    let validation := run surroundings ["validate", "jobs.yml"]
    let rendering := run surroundings ["render", "--json", "jobs.yml", "--path", "/srv/other"]
    let listing := run surroundings ["list", "--", "jobs.yml"]
    Request.ofArguments ["validate", "jobs.yml"] = .ok (.validate "jobs.yml") ∧
      Request.ofArguments ["render", "--json", "jobs.yml", "--path", "/srv/other"] =
        .ok (.render "jobs.yml" true (some "/srv/other")) ∧
      Request.ofArguments ["list", "--", "jobs.yml"] = .ok (.list "jobs.yml") ∧
      listing.code = 0 ∧ validation.code ≠ 0 ∧ rendering.code ≠ 0 ∧ rendering.output = "" ∧
      validation.reason = some "1 entry(ies) failed to render" ∧
      validation.errors =
        [⟨.error, "  - 30 5 * * 7: undefined job type 'ruby' (task \"clean\")"⟩] ∧
      rendering.reason = some "undefined job type 'ruby' (task \"clean\")" := by
  intro surroundings validation rendering listing
  have hvalidation : Request.ofArguments ["validate", "jobs.yml"] = .ok (.validate "jobs.yml") := by
    decide +kernel
  have hrendering : Request.ofArguments ["render", "--json", "jobs.yml", "--path", "/srv/other"] =
      .ok (.render "jobs.yml" true (some "/srv/other")) := by
    decide +kernel
  have hlisting : Request.ofArguments ["list", "--", "jobs.yml"] = .ok (.list "jobs.yml") := by
    decide +kernel
  have hfaults : (surroundings.plan "jobs.yml" none).map
      (fun plan => plan.faults.map fun fault => (fault.1.schedule.expression, fault.2)) =
        .ok [("30 5 * * 7", .undefinedJobType "ruby" "clean")] := by
    decide +kernel
  obtain ⟨plan, hplan, hplanFaults⟩ := map_eq_ok_iff.1 hfaults
  obtain ⟨fault, hfault, hvalues⟩ := List.map_eq_singleton_iff.1 hplanFaults
  obtain ⟨hexpression, herror⟩ := Prod.mk.inj hvalues
  obtain ⟨hagree, -, hlist, houtput, hreports⟩ :=
    run_agree surroundings hvalidation hrendering hlisting
  obtain ⟨hcode, herrors, hreason, hrenderingReason, -⟩ := hreports plan hplan
  have hne : plan.faults ≠ [] := hfault ▸ List.cons_ne_nil fault []
  have hfails : validation.code ≠ 0 := fun h => hne (hcode.1 h)
  have hrenderingFails : rendering.code ≠ 0 := fun h => hfails (hagree.2 h)
  refine ⟨hvalidation, hrendering, hlisting, (hlist none).2 ⟨plan, hplan⟩, hfails, hrenderingFails,
    houtput _ hrenderingFails, hreason.trans ?_, herrors.trans ?_, hrenderingReason.trans ?_⟩
  · rw [if_neg hne, Outcome.faultCount, hfault, List.length_singleton]
    decide +kernel
  · rw [hfault, List.map_singleton, Outcome.faultLine, hexpression, herror]
    decide +kernel
  · rw [hfault, List.head?_cons, Option.map_some, herror]
    decide +kernel

end CommandLine

end CrontabRenderer
