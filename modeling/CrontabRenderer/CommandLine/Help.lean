import CrontabRenderer.CommandLine.Request

/-!
# Help

What the program says about itself: a summary, how it is called, and tables of what may stand in the
call.
-/
namespace CrontabRenderer.CommandLine

def programName : String := "cronplate"

def versionText : String := programName ++ " 0.1.0\n"

/-- Rows of a table with a heading; the second column starts two places behind the first one. -/
structure HelpTable where
  heading : String
  rows : List (String × String)

def HelpTable.lines (table : HelpTable) : List String :=
  let width := (table.rows.map (·.1.length)).foldl max 0
  (table.heading ++ ":") :: table.rows.map fun (entry, description) =>
    "  " ++ entry ++ .ofList (List.replicate (width - entry.length) ' ') ++ "  " ++ description

structure HelpPage where
  summary : String
  usage : String
  tables : List HelpTable

def HelpPage.text (page : HelpPage) : String :=
  let lines := page.summary :: "" :: ("Usage: " ++ programName ++ " " ++ page.usage) ::
    page.tables.flatMap fun table => "" :: table.lines
  String.join (lines.map (· ++ "\n"))

namespace Topic

def summary : Topic → String
  | .program => programName ++ " - Render nested job declarations into crontab command lines"
  | .render => "Print the crontab for a schedule file"
  | .validate => "Render every entry and report errors"
  | .list => "List entries with their next run time"
  | .help => "Print this message or the help of the given subcommand(s)"

def commands : HelpTable where
  heading := "Commands"
  rows := [("render", summary .render), ("validate", summary .validate), ("list", summary .list),
    ("help", summary .help)]

def fileArgument : HelpTable := ⟨"Arguments", [("<FILE>", "Path to the schedule YAML file")]⟩

def helpOption : String × String := ("-h, --help", "Print help")

def page (topic : Topic) : HelpPage where
  summary := topic.summary
  usage := match topic with
    | .program => "<COMMAND>"
    | .render => "render [OPTIONS] <FILE>"
    | .validate => "validate <FILE>"
    | .list => "list <FILE>"
    | .help => "help [COMMAND]..."
  tables := match topic with
    | .program => [commands, ⟨"Options", [helpOption, ("-V, --version", "Print version")]⟩]
    | .render => [fileArgument, ⟨"Options", [
        ("    --json", "Print a JSON array of entries instead of crontab lines"),
        ("    --path <PATH>",
          "Value of \x60:path\x60 when the file sets none (default: working directory)"),
        helpOption]⟩]
    | .validate | .list => [fileArgument, ⟨"Options", [helpOption]⟩]
    | .help => [⟨"Arguments", [("[COMMAND]...", "Print help for the subcommand(s)")]⟩]

end Topic

end CrontabRenderer.CommandLine
