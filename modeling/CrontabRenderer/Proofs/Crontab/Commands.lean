import CrontabRenderer.CommandLine.Outcome
import CrontabRenderer.Proofs.Crontab.Lines
import CrontabRenderer.Proofs.Job.Tree
import CrontabRenderer.Proofs.Scope.Known
import CrontabRenderer.Proofs.Scope.Stock
import CrontabRenderer.Proofs.Text.Squished

/-!
# Squished commands on crontab lines

The command of a job without nested ones is squished before it is wrapped. The stock wrapping
template puts it between quotation marks, where no blank is added, so the wrapped command is
squished as well (`ScopeStack.isSquished_command`). Squishing it once more for the crontab changes
nothing: what the program prints as a crontab has the commands that it prints as JSON, with their
percent signs escaped (`Crontab.squish_canonical`).
-/
namespace CrontabRenderer

open CommandLine (Outcome)
open Text (IsSquished)

namespace Scope

/-- In the stock wrapping template a squished command makes a squished line. -/
theorem isSquished_wrap_loginShell {command : String} (h : IsSquished command.toList)
    (task : String) (lookup : String → Option String) :
    IsSquished (Template.wrap loginShell command task lookup).toList := by
  rw [Text.isSquished_iff, toList_wrap_loginShell,
    squishChars_quoted_last isPlainWord_of_mem_loginShellWords, h.collapse_eq_self]

end Scope

/-- A command that is not wrapped, or that the stock template wraps, is squished. -/
theorem ScopeStack.isSquished_command {stack : ScopeStack} {job : Job} {command : String}
    (hwrapper : stack.current.jobTemplate = none ∨
      stack.current.jobTemplate = some Scope.loginShell)
    (h : stack.command job = .ok command) : IsSquished command.toList := by
  have hsquished (s : String) : IsSquished (Text.squish s).toList := (Text.eq_squish_iff.1 rfl).2
  cases htemplate : stack.jobType? job.type with
  | none => simp [ScopeStack.command, htemplate] at h
  | some template =>
    rcases hwrapper with hnone | hstock
    · simp only [ScopeStack.command, htemplate, hnone, Except.ok.injEq] at h
      rw [← h]
      exact hsquished _
    · simp only [ScopeStack.command, htemplate, hstock, Except.ok.injEq] at h
      rw [← h]
      exact Scope.isSquished_wrap_loginShell (hsquished _) _ _

theorem Scope.renderJob_of_leaf {scope : Scope} {job : Job} (h : job.children = []) :
    scope.renderJob job = (⟨scope, []⟩ : ScopeStack).command job := by
  rw [renderJob, Job.ensureSingleChain_of_leaf h, ← Job.compose_of_leaf _ h]
  rfl

namespace Crontab

/-- The command with a backslash in front of every percent sign. -/
def escapePercents (command : String) : String :=
  .ofList (Text.replaceChar '%' ['\\', '%'] command.toList)

theorem line_eq_of_isSquished {command : String} (h : IsSquished command.toList)
    (expression : String) :
    line expression command = Text.trim expression ++ " " ++ escapePercents command := by
  rw [line, cleanCommand, Text.squish, String.toList_ofList, Text.isSquished_iff.1 h,
    escapePercents]

section Printed

variable {base : Scope} {list : JobList} {entries : List RenderedEntry}

theorem render_of_renderList (h : base.renderList list = .ok entries) :
    render base list = .ok (String.join ((lines entries).map (· ++ "\n"))) := by
  rw [render, h]
  rfl

theorem output_render_json (h : base.renderList list = .ok entries) :
    (Outcome.render ⟨base, list⟩ true).output =
      Json.pretty (.array (entries.map RenderedEntry.toJson)) ++ "\n" := by
  simp only [Outcome.render, h]
  rfl

theorem output_render_crontab {text : String} (h : render base list = .ok text) :
    (Outcome.render ⟨base, list⟩ false).output = text := by
  simp only [Outcome.render, h]
  rfl

end Printed

section Childless

theorem exists_renderJob_isSquished {scope : Scope} {job : Job} {template : String}
    (hchildless : job.children = [])
    (hwrapper : scope.jobTemplate = none ∨ scope.jobTemplate = some Scope.loginShell)
    (htemplate : scope.jobTypes.find? job.type = some template) :
    ∃ command, scope.renderJob job = .ok command ∧ IsSquished command.toList := by
  have hknown : (⟨scope, []⟩ : ScopeStack).current.Knows job.type := ⟨template, htemplate⟩
  obtain ⟨command, hcommand⟩ := ScopeStack.exists_command hknown
  refine ⟨command, ?_, ScopeStack.isSquished_command hwrapper hcommand⟩
  rw [Scope.renderJob_of_leaf hchildless, hcommand]

theorem isSquished_of_mem_commands {scope : Scope} {entry : Entry} {rendered : RenderedEntry}
    (hchildless : ∀ job ∈ entry.jobs, job.children = [])
    (hwrapper : scope.jobTemplate = none ∨ scope.jobTemplate = some Scope.loginShell)
    (h : scope.renderEntry entry = .ok rendered) :
    ∀ command ∈ rendered.commands, IsSquished command.toList := by
  intro command hcommand
  obtain ⟨job, hjob, hrender⟩ := exists_left_of_forall₂ (renderEntry_eq_ok h).2 hcommand
  rw [Scope.renderJob_of_leaf (hchildless job hjob)] at hrender
  exact ScopeStack.isSquished_command hwrapper hrender

/-- The lines have the commands of the entries as these are, but for the percent signs. -/
theorem lines_of_renderList {base : Scope} {list : JobList} {entries : List RenderedEntry}
    (hchildless : ∀ entry ∈ list.entries, ∀ job ∈ entry.jobs, job.children = [])
    (hwrapper : (base.forList list).jobTemplate = none ∨
      (base.forList list).jobTemplate = some Scope.loginShell)
    (h : base.renderList list = .ok entries) :
    lines entries = entries.flatMap fun entry => entry.commands.map fun command =>
      Text.trim entry.expression ++ " " ++ escapePercents command := by
  apply List.flatMap_congr
  intro rendered hrendered
  obtain ⟨entry, hentry, hrender⟩ := exists_left_of_forall₂ (mapM_eq_ok_iff.1 h) hrendered
  apply List.map_congr_left
  intro command hcommand
  exact line_eq_of_isSquished
    (isSquished_of_mem_commands (hchildless entry hentry) hwrapper hrender command hcommand) _

end Childless

/-- Squishing gives the one squished text with the same words, so doing it again changes nothing,
and two texts are squished alike just if their words are the same; blanks between two texts with
words become a space. The command of a job without nested ones is squished if it is not wrapped or in
the stock template, and its line has it as it is, but for a backslash in front of every percent sign.
So the crontab that is printed for a list of such jobs has, behind the time expressions, the commands
that are printed as JSON. -/
theorem squish_canonical :
    (∀ s t : String, t = Text.squish s ↔ Text.words t = Text.words s ∧ IsSquished t.toList) ∧
    (∀ s : String, Text.squish (Text.squish s) = Text.squish s) ∧
    (∀ s t : String, Text.squish s = Text.squish t ↔ Text.words s = Text.words t) ∧
    (∀ s blanks t : String, blanks ≠ "" → (∀ c ∈ blanks.toList, Text.isBlank c = true) →
      Text.words s ≠ [] → Text.words t ≠ [] →
        Text.squish (s ++ blanks ++ t) = Text.squish s ++ " " ++ Text.squish t) ∧
    (∀ (scope : Scope) (job : Job) (template : String), job.children = [] →
      (scope.jobTemplate = none ∨ scope.jobTemplate = some Scope.loginShell) →
      scope.jobTypes.find? job.type = some template →
        ∃ command, scope.renderJob job = .ok command ∧ Text.squish command = command ∧
          ∀ expression, line expression command =
            Text.trim expression ++ " " ++ escapePercents command) ∧
    ∀ (base : Scope) (list : JobList) (entries : List RenderedEntry),
      (∀ entry ∈ list.entries, ∀ job ∈ entry.jobs, job.children = []) →
      ((base.forList list).jobTemplate = none ∨
        (base.forList list).jobTemplate = some Scope.loginShell) →
      base.renderList list = .ok entries →
        let text := String.join (entries.flatMap fun entry => entry.commands.map fun command =>
          Text.trim entry.expression ++ " " ++ escapePercents command ++ "\n")
        render base list = .ok text ∧
        (Outcome.render ⟨base, list⟩ false).output = text ∧
        (Outcome.render ⟨base, list⟩ true).output =
          Json.pretty (.array (entries.map fun entry => .object
            [("at", .string entry.expression),
              ("commands", .ofTexts entry.commands)])) ++ "\n" := by
  refine ⟨fun s t => Text.eq_squish_iff, Text.squish_squish, fun s t => Text.squish_eq_iff,
    fun s blanks t hne hblanks hs ht => Text.squish_append_blanks hne hblanks hs ht, ?_, ?_⟩
  · intro scope job template hchildless hwrapper htemplate
    obtain ⟨command, hrender, hsquished⟩ :=
      exists_renderJob_isSquished hchildless hwrapper htemplate
    refine ⟨command, hrender, ?_, line_eq_of_isSquished hsquished⟩
    exact (Text.eq_squish_iff.2 ⟨rfl, hsquished⟩).symm
  · intro base list entries hchildless hwrapper hrender text
    have htext : render base list = .ok text := by
      rw [render_of_renderList hrender, lines_of_renderList hchildless hwrapper hrender,
        List.map_flatMap]
      simp only [List.map_map]
      rfl
    exact ⟨htext, output_render_crontab htext, output_render_json hrender⟩

/-- A task with quotation marks, several kinds of blanks and a percent sign, in the stock scope. -/
theorem squish_canonical_stock :
    let task := " date\t+%Y\u00a0 'a  b' "
    let job : Job := { type := "command", task }
    let list : JobList := { entries := [⟨⟨"@daily", .timetable midnight⟩, [job]⟩] }
    let scope := Scope.stock "/srv/app"
    let command := "/bin/bash -l -c 'date +%Y '\\''a b'\\'''"
    let written := "/bin/bash -l -c 'date +\\%Y '\\''a b'\\'''"
    Text.squish ("a" ++ "\u3000 " ++ "b") = Text.squish "a" ++ " " ++ Text.squish "b" ∧
      scope.renderJob job = .ok command ∧ Text.squish command = command ∧
      line "@daily" command = "@daily " ++ written ∧
      scope.renderList list = .ok [⟨"@daily", [command]⟩] ∧
      render scope list = .ok ("@daily " ++ written ++ "\n") ∧
      (Outcome.render ⟨scope, list⟩ false).output = "@daily " ++ written ++ "\n" ∧
      (Outcome.render ⟨scope, list⟩ true).output =
        "[\n  \x7b\n    \"at\": \"@daily\",\n    \"commands\": [\n      \"" ++
          "/bin/bash -l -c 'date +%Y '\\\\''a b'\\\\'''" ++ "\"\n    ]\n  \x7d\n]\n" := by
  intro task job list scope command written
  obtain ⟨-, -, -, hjoin, hjob, hlist⟩ := squish_canonical
  have hrender : scope.renderJob job = .ok command := by decide +kernel
  have htemplate : scope.jobTypes.find? job.type = some ":task :output" := by decide +kernel
  obtain ⟨rendered, hrendered, hsquish, hline⟩ :=
    hjob scope job ":task :output" rfl (.inr rfl) htemplate
  obtain rfl : command = rendered := Except.ok.inj (hrender.symm.trans hrendered)
  have hentries : scope.renderList list = .ok [⟨"@daily", [command]⟩] := by decide +kernel
  obtain ⟨htext, hcrontab, hjson⟩ := hlist scope list _ (by simp [list, job]) (.inr rfl) hentries
  have hblanks : ∀ c ∈ "\u3000 ".toList, Text.isBlank c = true := by simp [Text.isBlank]
  refine ⟨hjoin "a" "\u3000 " "b" (by decide) hblanks ?_ ?_, hrender, hsquish,
    (hline "@daily").trans ?_, hentries, htext.trans ?_, hcrontab.trans ?_, hjson.trans ?_⟩
  · decide +kernel
  · decide +kernel
  · decide +kernel
  · decide +kernel
  · decide +kernel
  · decide +kernel

end Crontab

end CrontabRenderer
