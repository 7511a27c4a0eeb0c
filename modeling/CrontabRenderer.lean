import CrontabRenderer.Calendar
import CrontabRenderer.CommandLine.Help
import CrontabRenderer.CommandLine.Outcome
import CrontabRenderer.CommandLine.Request
import CrontabRenderer.Config
import CrontabRenderer.Config.Error
import CrontabRenderer.Config.Format
import CrontabRenderer.Config.FromJson
import CrontabRenderer.Config.FromYaml
import CrontabRenderer.Config.ToJson
import CrontabRenderer.Config.Validation
import CrontabRenderer.Crontab
import CrontabRenderer.Decimal.Digits
import CrontabRenderer.Decimal.Shortest
import CrontabRenderer.Expectation
import CrontabRenderer.FileError
import CrontabRenderer.Folder
import CrontabRenderer.Job
import CrontabRenderer.JobList
import CrontabRenderer.Json
import CrontabRenderer.Json.Printer
import CrontabRenderer.Json.Reader
import CrontabRenderer.Log
import CrontabRenderer.Main
import CrontabRenderer.NameMap
import CrontabRenderer.Number
import CrontabRenderer.Options
import CrontabRenderer.Plan
import CrontabRenderer.Proofs.Calendar.Order
import CrontabRenderer.Proofs.Chain.Flat
import CrontabRenderer.Proofs.Chain.Halting
import CrontabRenderer.Proofs.CommandLine.Agreement
import CrontabRenderer.Proofs.Config.Options
import CrontabRenderer.Proofs.Config.Saving
import CrontabRenderer.Proofs.Config.Tree
import CrontabRenderer.Proofs.Config.Validity
import CrontabRenderer.Proofs.Crontab.Commands
import CrontabRenderer.Proofs.Crontab.Lines
import CrontabRenderer.Proofs.Crontab.Percent
import CrontabRenderer.Proofs.Decimal.Digits
import CrontabRenderer.Proofs.Decimal.Shortest
import CrontabRenderer.Proofs.Job.OptionNames
import CrontabRenderer.Proofs.Job.Tree
import CrontabRenderer.Proofs.Number.Spelling
import CrontabRenderer.Proofs.Plan.Mirror
import CrontabRenderer.Proofs.Plan.Numbers
import CrontabRenderer.Proofs.Plan.Precedence
import CrontabRenderer.Proofs.Plan.Saving
import CrontabRenderer.Proofs.Redirection.Streams
import CrontabRenderer.Proofs.Render.Failure
import CrontabRenderer.Proofs.Render.SingleChain
import CrontabRenderer.Proofs.Results
import CrontabRenderer.Proofs.Schedule.Accepted
import CrontabRenderer.Proofs.Schedule.CrontabWord
import CrontabRenderer.Proofs.Schedule.DayRule
import CrontabRenderer.Proofs.Schedule.FieldText
import CrontabRenderer.Proofs.Schedule.NextTime
import CrontabRenderer.Proofs.Schedule.Shortcut
import CrontabRenderer.Proofs.Schedule.TimeWords
import CrontabRenderer.Proofs.Schedule.WeekdayRenumbering
import CrontabRenderer.Proofs.Schedule.WeekdayWord
import CrontabRenderer.Proofs.Schedule.WordByWord
import CrontabRenderer.Proofs.Scope.Blocks
import CrontabRenderer.Proofs.Scope.Stock
import CrontabRenderer.Proofs.Shell.Redirects
import CrontabRenderer.Proofs.Shell.Tokens
import CrontabRenderer.Proofs.Shell.WordAt
import CrontabRenderer.Proofs.Shell.Words
import CrontabRenderer.Proofs.Template.Addressed
import CrontabRenderer.Proofs.Template.Filling
import CrontabRenderer.Proofs.Template.Insertion
import CrontabRenderer.Proofs.Template.Quoted
import CrontabRenderer.Proofs.Template.SinglePass
import CrontabRenderer.Proofs.Template.Unquoted
import CrontabRenderer.Proofs.Text.Backslashes
import CrontabRenderer.Proofs.Text.Lowercase
import CrontabRenderer.Proofs.Text.Squished
import CrontabRenderer.Redirection
import CrontabRenderer.Redirection.Reader
import CrontabRenderer.Render
import CrontabRenderer.Schedule
import CrontabRenderer.Schedule.Fault
import CrontabRenderer.Schedule.Field
import CrontabRenderer.Schedule.Reader
import CrontabRenderer.Schedule.Timetable
import CrontabRenderer.Schedule.Weekday
import CrontabRenderer.Scope
import CrontabRenderer.Shape
import CrontabRenderer.Template
import CrontabRenderer.Text.Blank
import CrontabRenderer.Text.Cased
import CrontabRenderer.Text.Combining
import CrontabRenderer.Text.Lowercase
import CrontabRenderer.Text.Quoted
import CrontabRenderer.Text.Unprintable
import CrontabRenderer.Text.Word
import CrontabRenderer.Yaml.Cursor
import CrontabRenderer.Yaml.Directive
import CrontabRenderer.Yaml.Document
import CrontabRenderer.Yaml.Error
import CrontabRenderer.Yaml.Node
import CrontabRenderer.Yaml.Scalar.Block
import CrontabRenderer.Yaml.Scalar.Gap
import CrontabRenderer.Yaml.Scalar.Plain
import CrontabRenderer.Yaml.Scalar.Quoted
import CrontabRenderer.Yaml.Tag
import CrontabRenderer.Yaml.Token
import CrontabRenderer.Yaml.Tokens
import CrontabRenderer.Yaml.Value
