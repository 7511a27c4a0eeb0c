/-!
# Requests

What the arguments of the program ask for. Options may stand before or behind the file; what follows
two dashes is the file, whatever it looks like.
-/
namespace CrontabRenderer.CommandLine

/-- What `help` is about. -/
inductive Topic where
  | program
  | render
  | validate
  | list
  | help
  deriving Repr, DecidableEq

inductive Request where
  /-- Prints the crontab of a file or, with `json`, its entries. The path is for a file without
  one. -/
  | render (file : String) (json : Bool) (path : Option String)
  /-- Tries to render each entry of a file. -/
  | validate (file : String)
  /-- Lists the entries and job types of a file. -/
  | list (file : String)
  | help (topic : Topic)
  | version
  deriving Repr, DecidableEq

inductive UsageError where
  | missingCommand
  | unknownCommand (name : String)
  | unexpectedArgument (argument : String)
  | missingFile
  | emptyFile
  | missingValue (option : String)
  | repeatedOption (option : String)
  deriving Repr, DecidableEq

def UsageError.message : UsageError → String
  | .missingCommand => "a command is missing"
  | .unknownCommand name => "unrecognized command '" ++ name ++ "'"
  | .unexpectedArgument argument => "unexpected argument '" ++ argument ++ "'"
  | .missingFile => "the argument <FILE> is missing"
  | .emptyFile => "the argument <FILE> is empty"
  | .missingValue option => "the option '" ++ option ++ "' is without its value"
  | .repeatedOption option => "the option '" ++ option ++ "' is given more than once"

/-- The commands that work on a file. -/
inductive Command where
  | render
  | validate
  | list
  deriving Repr, DecidableEq

def Command.topic : Command → Topic
  | .render => .render
  | .validate => .validate
  | .list => .list

def Command.ofName? (name : String) : Option Command :=
  if name = "render" then some .render
  else if name = "validate" then some .validate
  else if name = "list" then some .list
  else none

/-- The arguments of a command, as far as they are read. -/
structure Given where
  file : Option String := none
  json : Bool := false
  path : Option String := none
  deriving Repr, DecidableEq

namespace Given

def putFile (given : Given) (file : String) : Except UsageError Given :=
  if given.file.isSome then .error (.unexpectedArgument file)
  else if file.isEmpty then .error .emptyFile
  else .ok { given with file := some file }

def putFiles (given : Given) (files : List String) : Except UsageError Given :=
  files.foldlM putFile given

def putPath (given : Given) (path : String) : Except UsageError Given :=
  if given.path.isSome then .error (.repeatedOption "--path")
  else .ok { given with path := some path }

def putJson (given : Given) : Except UsageError Given :=
  if given.json then .error (.repeatedOption "--json") else .ok { given with json := true }

def request (given : Given) (command : Command) : Except UsageError Request :=
  match given.file with
  | none => .error .missingFile
  | some file =>
    match command with
    | .render => .ok (.render file given.json given.path)
    | .validate => .ok (.validate file)
    | .list => .ok (.list file)

end Given

/-- An argument that is not the value of anything. A single dash is the name of a file. -/
def isOption (argument : String) : Bool :=
  argument.toList.head? == some '-' && argument ≠ "-"

/-- The argument is a short option, or several of them of which it is the first. -/
def asksFirst (option : Char) (argument : String) : Bool := ['-', option].isPrefixOf argument.toList

def asksHelp (argument : String) : Bool := argument = "--help" || asksFirst 'h' argument

def asksVersion (argument : String) : Bool := argument = "--version" || asksFirst 'V' argument

/-- The text behind `--path=`. -/
def pathValue? (argument : String) : Option String :=
  let mark := "--path=".toList
  if mark.isPrefixOf argument.toList then some (.ofList (argument.toList.drop mark.length))
  else none

/-- Reads the arguments of a command. A request for help ends the reading. -/
def Command.read (command : Command) (given : Given) : List String → Except UsageError Request
  | [] => given.request command
  | argument :: rest =>
    if argument = "--" then do (← given.putFiles rest).request command
    else if !isOption argument then do command.read (← given.putFile argument) rest
    else if asksHelp argument then .ok (.help command.topic)
    else if command ≠ .render then .error (.unexpectedArgument argument)
    else if argument = "--json" then do command.read (← given.putJson) rest
    else match pathValue? argument with
      | some path => do command.read (← given.putPath path) rest
      | none =>
        if argument ≠ "--path" then .error (.unexpectedArgument argument)
        else match rest with
          | [] => .error (.missingValue argument)
          | path :: rest =>
            if isOption path then .error (.missingValue argument)
            else do command.read (← given.putPath path) rest

/-- What `help` with these arguments is about. Only the program has commands. -/
def readTopic : List String → Except UsageError Topic
  | [] => .ok .program
  | name :: rest => do
    let topic ← match Command.ofName? name with
      | some command => .ok command.topic
      | none => if name = "help" then .ok .help else .error (.unknownCommand name)
    match rest with
    | [] => return topic
    | other :: _ => throw (.unknownCommand other)

namespace Request

def ofArguments : List String → Except UsageError Request
  | [] => .error .missingCommand
  | argument :: rest =>
    if asksHelp argument then .ok (.help .program)
    else if asksVersion argument then .ok .version
    else if isOption argument then .error (.unexpectedArgument argument)
    else if argument = "help" then (readTopic rest).map .help
    else match Command.ofName? argument with
      | some command => command.read {} rest
      | none => .error (.unknownCommand argument)

/-- The file that a request is about. -/
def file? : Request → Option String
  | .render file _ _ => some file
  | .validate file => some file
  | .list file => some file
  | .help _ => none
  | .version => none

end Request

end CrontabRenderer.CommandLine
