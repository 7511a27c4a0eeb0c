import CrontabRenderer.CommandLine.Outcome

/-!
# The program

Reads the file that a request names, and writes what the request comes to. The log and the reason of
a failure go to the error stream.
-/
namespace CrontabRenderer.CommandLine

/-- The system's number for reading a directory as a file. -/
def isDirectoryCode : UInt32 := 21

/-- The system's number for a path with too long a name. -/
def nameTooLongCode : UInt32 := 36

/-- The text of a file of this machine. -/
def readFile (path : String) : IO (Except FileError String) := do
  try
    let bytes ← IO.FS.readBinFile path
    match String.fromUTF8? bytes with
    | some text => return .ok text
    | none => return .error .notUtf8
  catch
    | .noFileOrDirectory _ _ _ => return .error .notFound
    | .inappropriateType _ code _ =>
      return .error (if code = isDirectoryCode then .isDirectory else .notDirectory)
    | .invalidArgument file code details =>
      if code = nameTooLongCode then return .error .nameTooLong
      else throw (.invalidArgument file code details)
    | error => throw error

/-- The present time: that of a file which is created now. -/
def presentTime : IO Instant :=
  IO.FS.withTempFile fun _ path => do
    let time := (← path.metadata).modified
    return (Instant.ofSeconds time.sec).after time.nsec.toNat

/-- Runs the program on this machine. -/
def runHere (arguments : List String) : IO Outcome := do
  match Request.ofArguments arguments with
  | .error error => return .misuse error
  | .ok request =>
    let content ← match request.file? with
      | some file => readFile file
      | none => pure (.error .notFound)
    let directory ← IO.currentDir
    let surroundings : Surroundings :=
      { read := fun _ => content, workingDirectory := directory.toString, now := ← presentTime }
    return request.outcome surroundings

end CrontabRenderer.CommandLine

open CrontabRenderer.CommandLine in
def main (arguments : List String) : IO UInt32 := do
  let outcome ← runHere arguments
  for line in outcome.log do IO.eprintln line.text
  if let some reason := outcome.reason then IO.eprintln ("Error: " ++ reason)
  IO.print outcome.output
  return outcome.code.toUInt32
