import CrontabRenderer.Proofs.Shell.Words
import CrontabRenderer.Proofs.Template.Filling
import CrontabRenderer.Proofs.Text.Words
import CrontabRenderer.Render

/-!
# Commands of the stock scope

The stock wrapping template runs a command in a login shell, as its last argument. Whatever the
command is made of, that shell gets it unchanged (`words?_wrap_loginShell`). The stock `runner`
quotes its task, so the login shell in turn reads the task as one word, with a space for every run
of blanks (`words?_fill_runner`).
-/
namespace CrontabRenderer.Scope

open Template (Piece Quote)

/-- What the stock scope holds is in force. -/
structure ExtendsStock (path : String) (scope : Scope) : Prop where
  jobTemplate : scope.jobTemplate = some loginShell
  jobType : ∀ name template, (stock path).jobTypes.find? name = some template →
    scope.jobTypes.find? name = some template
  value : ∀ name value, (stock path).globals.find? name = some value →
    scope.globals.find? name = some value

/-- The declaration takes the place of something in the stock scope. -/
def overridesStock (path : String) : Declaration → Bool
  | .set name _ => ((stock path).globals.find? name).isSome
  | .jobTemplate _ => true
  | .jobType type => ((stock path).jobTypes.find? type.name).isSome

theorem extendsStock_stock (path : String) : (stock path).ExtendsStock path :=
  ⟨rfl, fun _ _ h => h, fun _ _ h => h⟩

theorem ExtendsStock.declare {path : String} {scope : Scope} (h : scope.ExtendsStock path)
    {declaration : Declaration} (hnew : overridesStock path declaration = false) :
    (scope.declare declaration).ExtendsStock path := by
  obtain ⟨hjobTemplate, hjobType, hvalue⟩ := h
  cases declaration with
  | set name value =>
    refine ⟨hjobTemplate, hjobType, fun other stockValue hstock => ?_⟩
    have hother : other ≠ name := by
      rintro rfl
      simp [overridesStock, hstock] at hnew
    simpa [Scope.declare, setOption, hother] using hvalue other stockValue hstock
  | jobTemplate template => cases hnew
  | jobType type =>
    refine ⟨hjobTemplate, fun other template hstock => ?_, hvalue⟩
    have hother : other ≠ type.name := by
      rintro rfl
      simp [overridesStock, hstock] at hnew
    simpa [Scope.declare, define, hother] using hjobType other template hstock

/-- Declarations of other things than the stock ones leave these in force. -/
theorem ExtendsStock.declareAll {path : String} {scope : Scope} (h : scope.ExtendsStock path)
    {declarations : List Declaration}
    (hnew : ∀ declaration ∈ declarations, overridesStock path declaration = false) :
    (scope.declareAll declarations).ExtendsStock path := by
  induction declarations generalizing scope with
  | nil => exact h
  | cons declaration declarations ih =>
    obtain ⟨hfirst, hnew⟩ := List.forall_mem_cons.1 hnew
    exact ih (h.declare hfirst) hnew

theorem piecesOf_loginShell :
    Template.piecesOf loginShell.toList =
      "/bin/bash -l -c '".toList.map .literal ++
        [.placeholder Template.jobName, .literal '\''] := by
  decide +kernel

/-- The words in front of the command. -/
def loginShellWords : List (List Char) := ["/bin/bash".toList, "-l".toList, "-c".toList]

theorem isPlainWord_of_mem_loginShellWords :
    ∀ word ∈ loginShellWords, Shell.isPlainWord word = true := by
  decide

/-- The command stands in quotation marks at the end of the line. -/
theorem toList_wrap_loginShell (command task : String) (lookup : String → Option String) :
    (Template.wrap loginShell command task lookup).toList =
      loginShellWords.flatMap (· ++ [' ']) ++
        ('\'' :: Quote.single.escape command.toList ++ ['\'']) := by
  rw [Template.wrap, Template.filling, piecesOf_loginShell, String.toList_ofList,
    Template.text_fillPieces_literal_append, Template.text_fillPieces_placeholder]
  simp [Template.fillPieces, Template.firstChar?, Template.enclosing?, Template.replacement,
    Template.jobReserved, loginShellWords]

theorem words?_wrap_loginShell (command task : String) (lookup : String → Option String) :
    Shell.words? (Template.wrap loginShell command task lookup) =
      some ["/bin/bash", "-l", "-c", command] := by
  rw [Shell.words?_quoted_last isPlainWord_of_mem_loginShellWords
    (toList_wrap_loginShell command task lookup)]
  simp [loginShellWords]

/-- The template of the stock job type `runner`. -/
def runner : String := "cd :path && :bundle_command :runner_command -e :environment ':task' :output"

theorem piecesOf_runner :
    Template.piecesOf runner.toList =
      "cd ".toList.map .literal ++ .placeholder "path" ::
      (" && ".toList.map .literal ++ .placeholder "bundle_command" ::
      (" ".toList.map .literal ++ .placeholder "runner_command" ::
      (" -e ".toList.map .literal ++ .placeholder "environment" ::
      (" '".toList.map .literal ++ .placeholder Template.taskName ::
      ("' ".toList.map .literal ++ [.placeholder "output"]))))) := by
  decide +kernel

theorem find?_runner_stock (path : String) :
    (stock path).jobTypes.find? "runner" = some runner := by
  simp [stock, NameMap.ofList, NameMap.insertAll, runner]

theorem find?_globals_stock (path name : String) :
    (stock path).globals.find? name =
      if name = "output" then some ""
      else if name = "runner_command" then some "bin/rails runner"
      else if name = "bundle_command" then some "bundle exec"
      else if name = "environment" then some "production"
      else if name = "environment_variable" then some "RAILS_ENV"
      else if name = "path" then some path
      else none := by
  simp [stock, NameMap.ofList, NameMap.insertAll]

/-- The words in front of the task in a `runner` command. -/
def runnerWords (path : String) : List (List Char) :=
  ["cd".toList, path.toList, "&&".toList, "bundle".toList, "exec".toList, "bin/rails".toList,
    "runner".toList, "-e".toList, "production".toList]

/-- The task stands in quotation marks, with nothing but the empty `output` behind it. -/
theorem toList_fill_runner {path : String} {lookup : String → Option String}
    (hlookup : ∀ name value, (stock path).globals.find? name = some value →
      lookup name = some value) (task : String) :
    (Template.fill runner task lookup).toList =
      (runnerWords path).flatMap (· ++ [' ']) ++
        ('\'' :: Quote.single.escape task.toList ++ ['\'']) ++ [' '] := by
  have hpath : lookup "path" = some path := hlookup _ _ (by simp [find?_globals_stock])
  have hbundle : lookup "bundle_command" = some "bundle exec" :=
    hlookup _ _ (by simp [find?_globals_stock])
  have hrunner : lookup "runner_command" = some "bin/rails runner" :=
    hlookup _ _ (by simp [find?_globals_stock])
  have henvironment : lookup "environment" = some "production" :=
    hlookup _ _ (by simp [find?_globals_stock])
  have houtput : lookup "output" = some "" := hlookup _ _ (by simp [find?_globals_stock])
  rw [Template.fill, Template.filling, piecesOf_runner, String.toList_ofList]
  simp only [Template.text_fillPieces_literal_append, Template.text_fillPieces_placeholder]
  simp [hpath, hbundle, hrunner, henvironment, houtput, Template.fillPieces, Template.firstChar?,
    Template.enclosing?, Template.replacement, Template.taskReserved, Template.taskName,
    runnerWords]

theorem isPlainWord_of_mem_runnerWords {path : String}
    (hpath : Shell.isPlainWord path.toList = true) :
    ∀ word ∈ runnerWords path, Shell.isPlainWord word = true := by
  simp only [runnerWords, List.forall_mem_cons]
  exact ⟨by decide, hpath, by decide⟩

theorem collapse_escape_single (s : List Char) :
    Text.collapse (Quote.single.escape s) = Quote.single.escape (Text.collapse s) := by
  have hmark : ∀ c ∈ Quote.single.escapedMark, Text.isBlank c = false := by
    simp [Quote.escapedMark, Text.isBlank]
  apply Text.collapse_replaceChar
  · decide
  · decide
  · exact hmark

/-- Squishing a line that ends with a quotation reaches into it, and changes its blanks alone. -/
theorem squishChars_quoted_last {words : List (List Char)}
    (hwords : ∀ word ∈ words, Shell.isPlainWord word = true) (value : List Char) :
    Text.squishChars
        (words.flatMap (· ++ [' ']) ++ ('\'' :: Quote.single.escape value ++ ['\''])) =
      words.flatMap (· ++ [' ']) ++
        ('\'' :: Quote.single.escape (Text.collapse value) ++ ['\'']) := by
  have hblanks : ∀ word ∈ words, word ≠ [] ∧ ∀ c ∈ word, Text.isBlank c = false := by
    intro word hword
    have hplain := Shell.isPlainWord_iff.1 (hwords word hword)
    exact ⟨hplain.1, fun c hc => Shell.not_isBlank_of_isPlain (hplain.2 c hc)⟩
  have hmark : Text.isBlank '\'' = false := by decide
  rw [Text.squishChars_eq_collapse, List.cons_append,
    Text.collapse_flatMap_append_cons hblanks hmark, Text.collapse_append_cons hmark,
    collapse_escape_single, Text.collapse_nil, List.cons_append]
  · cases words with
    | nil => simp [hmark]
    | cons word words =>
      obtain ⟨⟨hne, hword⟩, -⟩ := List.forall_mem_cons.1 hblanks
      obtain ⟨c, rest, rfl⟩ := List.exists_cons_of_ne_nil hne
      simp [hword c]
  · rw [← List.append_assoc, List.getLast?_concat]
    exact hmark

theorem toList_squish_fill_runner {path : String} (hpath : Shell.isPlainWord path.toList = true)
    {lookup : String → Option String}
    (hlookup : ∀ name value, (stock path).globals.find? name = some value →
      lookup name = some value) (task : String) :
    (Text.squish (Template.fill runner task lookup)).toList =
      (runnerWords path).flatMap (· ++ [' ']) ++
        ('\'' :: Quote.single.escape (Text.collapse task.toList) ++ ['\'']) := by
  rw [Text.squish, String.toList_ofList, toList_fill_runner hlookup,
    Text.squishChars_append_of_isBlank (by decide),
    squishChars_quoted_last (isPlainWord_of_mem_runnerWords hpath)]

theorem words?_fill_runner {path : String} (hpath : Shell.isPlainWord path.toList = true)
    {lookup : String → Option String}
    (hlookup : ∀ name value, (stock path).globals.find? name = some value →
      lookup name = some value) (task : String) :
    Shell.words? (Text.squish (Template.fill runner task lookup)) =
      some ["cd", path, "&&", "bundle", "exec", "bin/rails", "runner", "-e", "production",
        String.ofList (Text.collapse task.toList)] := by
  rw [Shell.words?_quoted_last (isPlainWord_of_mem_runnerWords hpath)
    (toList_squish_fill_runner hpath hlookup task)]
  simp [runnerWords]

/-- The command of a job without nested ones. -/
theorem renderJob_of_children_eq_nil {scope : Scope} {job : Job} (hchildless : job.children = [])
    {template : String} (htemplate : scope.jobTypes.find? job.type = some template)
    (hwrapper : scope.jobTemplate = some loginShell) :
    let lookup := (Resolver.mk job.options [scope.globals]).resolve
    scope.renderJob job = .ok (Template.wrap loginShell
      (Text.squish (Template.fill template job.task lookup)) job.task lookup) := by
  obtain ⟨type, task, options, haltOnFailure, declarations, children⟩ := job
  subst hchildless
  intro lookup
  show (⟨scope, []⟩ : ScopeStack).command _ = _
  simp only [ScopeStack.command, ScopeStack.jobType?, htemplate, hwrapper]
  rfl

/-- With the stock wrapping template, every command is four words for the shell, the last of which
is the filled template of the job type, character for character. Of a stock `runner` whose options
have their stock values, the login shell reads the task as the last word, with a space for every
longest run of blanks. -/
theorem stock_command_words {path : String} {declarations : List Declaration} {job : Job}
    {template : String}
    (hwrapper : ((stock path).declareAll declarations).jobTemplate = some loginShell)
    (hchildless : job.children = [])
    (htemplate : ((stock path).declareAll declarations).jobTypes.find? job.type = some template) :
    let scope := (stock path).declareAll declarations
    let lookup := (Resolver.mk job.options [scope.globals]).resolve
    let filled := Text.squish (Template.fill template job.task lookup)
    (∃ command, scope.renderJob job = .ok command ∧
      Shell.words? command = some ["/bin/bash", "-l", "-c", filled]) ∧
    (scope.ExtendsStock path → job.type = "runner" → job.options = ∅ →
      Shell.isPlainWord path.toList = true → Shell.words? filled =
        some ["cd", path, "&&", "bundle", "exec", "bin/rails", "runner", "-e", "production",
          String.ofList (Text.collapse job.task.toList)]) := by
  intro scope lookup filled
  refine ⟨⟨_, renderJob_of_children_eq_nil hchildless htemplate hwrapper,
    words?_wrap_loginShell filled job.task lookup⟩, fun hstock htype hoptions hpath => ?_⟩
  have hrunner : template = runner := by
    have hfind := hstock.jobType "runner" runner (find?_runner_stock path)
    rw [← htype] at hfind
    exact Option.some.inj (htemplate.symm.trans hfind)
  have hlookup : ∀ name value, (stock path).globals.find? name = some value →
      lookup name = some value := by
    intro name value hvalue
    have hown : job.options.find? name = none := by rw [hoptions, NameMap.find?_empty]
    show (Resolver.mk job.options [scope.globals]).resolve name = some value
    rw [Resolver.resolve_of_own_eq_none hown]
    simpa using hstock.value name value hvalue
  subst hrunner
  exact words?_fill_runner hpath hlookup job.task

/-- A task with marks of both kinds, a backslash, a newline and what looks like placeholders. -/
theorem stock_command_words_quotes :
    let declarations : List Declaration :=
      [.set "mailto" "':job'", .jobType ⟨"echo", "echo ':task'"⟩]
    let scope := (stock "/srv/app").declareAll declarations
    let job : Job := { type := "runner", task := " puts 'it''s :task' \\\n \"b\":job " }
    let filled := "cd /srv/app && bundle exec bin/rails runner -e production " ++
      "' puts '\\''it'\\'''\\''s :task'\\'' \\ \"b\":job '"
    (∃ command, scope.renderJob job = .ok command ∧
      Shell.words? command = some ["/bin/bash", "-l", "-c", filled]) ∧
    Shell.words? filled =
      some ["cd", "/srv/app", "&&", "bundle", "exec", "bin/rails", "runner", "-e", "production",
        " puts 'it''s :task' \\ \"b\":job "] := by
  intro declarations scope job filled
  have hstock : scope.ExtendsStock "/srv/app" :=
    (extendsStock_stock "/srv/app").declareAll (by decide)
  have htemplate : scope.jobTypes.find? job.type = some runner := by decide +kernel
  have hfilled : Text.squish (Template.fill runner job.task
      (Resolver.mk job.options [scope.globals]).resolve) = filled := by decide +kernel
  have htask : Text.collapse job.task.toList =
      " puts 'it''s :task' \\ \"b\":job ".toList := by decide
  obtain ⟨hcommand, hwords⟩ := stock_command_words hstock.jobTemplate rfl htemplate
  rw [hfilled] at hcommand
  have hlast := hwords hstock rfl rfl (by decide)
  rw [hfilled, htask, String.ofList_toList] at hlast
  exact ⟨hcommand, hlast⟩

end CrontabRenderer.Scope
