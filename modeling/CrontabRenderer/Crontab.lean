import CrontabRenderer.Render

/-!
# Crontab lines

A line is a time expression and a command. The crontab takes a percent sign for the end of a line,
so every one in a command is escaped.
-/
namespace CrontabRenderer.Crontab

/-- A command as it stands on a line. -/
def cleanCommand (command : String) : String :=
  .ofList (Text.replaceChar '%' ['\\', '%'] (Text.squish command).toList)

def line (expression command : String) : String :=
  Text.trim expression ++ " " ++ cleanCommand command

def lines (entries : List RenderedEntry) : List String :=
  entries.flatMap fun entry => entry.commands.map (line entry.expression)

/-- The crontab of a job list. -/
def render (base : Scope) (list : JobList) : Except RenderError String := do
  let entries ← base.renderList list
  return String.join ((lines entries).map (· ++ "\n"))

end CrontabRenderer.Crontab
