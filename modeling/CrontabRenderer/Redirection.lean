import CrontabRenderer.Json

/-!
# Output redirection

Where the output and the errors of a job go. A stream that is sent away on its own is appended to
its file; `/dev/null` is opened for writing from its start instead.
-/
namespace CrontabRenderer

inductive Redirection where
  /-- Both streams stay where they are. -/
  | inherit
  /-- Both streams are appended to one file. -/
  | combined (path : String)
  /-- Each stream goes where it is sent, or stays where it is. -/
  | split (standard error : Option String)
  deriving Repr, DecidableEq, Inhabited

namespace Redirection

def nullDevice : String := "/dev/null"

def discard : Redirection := .combined nullDevice

/-- The shell's words for two streams. Only both at `/dev/null`, or the errors at `/dev/null`, or
the output alone at `/dev/null` are opened for writing from the start. -/
def splitShell (standard error : Option String) : String :=
  match standard, error with
  | some out, some err =>
    if err = nullDevice then
      if out = nullDevice then "> " ++ nullDevice ++ " 2>&1"
      else ">> " ++ out ++ " 2> " ++ nullDevice
    else ">> " ++ out ++ " 2>> " ++ err
  | none, some err => if err = nullDevice then "2> " ++ nullDevice else "2>> " ++ err
  | some out, none => if out = nullDevice then "> " ++ nullDevice else ">> " ++ out
  | none, none => ""

/-- The shell's words that redirect a command. -/
def shell : Redirection → String
  | .inherit => ""
  | .combined path => ">> " ++ path ++ " 2>&1"
  | .split standard error => splitShell standard error

def toJson : Redirection → Json
  | .inherit => .null
  | .combined path => .string path
  | .split standard error =>
    .object [("standard", .ofOptional standard), ("error", .ofOptional error)]

end Redirection

end CrontabRenderer
