import CrontabRenderer.FileError
import CrontabRenderer.NameMap
import CrontabRenderer.Text.Blank

/-!
# Folders

A folder of files, each under its path from there. A file has text if its bytes are UTF-8. A path is
read step by step: only a folder can be stepped into, and a single dot stays where it is. Of the
machine around the folder only what every machine has is known.
-/
namespace CrontabRenderer

abbrev Folder := NameMap ByteArray

namespace Folder

/-- The steps of a path, some of which may be empty. -/
def stepsOf (path : String) : List String :=
  (Text.cutAt (· = '/') path.toList).map String.ofList

def ofSteps (steps : List String) : String := "/".intercalate steps

/-- The most octets that the name of a file may have. -/
def longestName : Nat := 255

/-- The most octets that a path may have. -/
def longestPath : Nat := 4095

/-- Where a path has led so far: so many steps into the folder, or into the outermost folder of the
machine. -/
inductive Place where
  | inside (steps : List String)
  | outside (steps : List String)
  deriving Repr, DecidableEq

/-- The folder is one of those that last for a short time. -/
def Place.aboveFolder : Place := .outside ["tmp"]

/-- The folder that a place is in. The outermost one is in itself. -/
def Place.parent : Place → Place
  | .inside [] => aboveFolder
  | .inside steps => .inside steps.dropLast
  | .outside steps => .outside steps.dropLast

/-- The folders of a machine that are another one under a second name. -/
def secondNames : List (String × String) :=
  [("bin", "usr/bin"), ("lib", "usr/lib"), ("lib64", "usr/lib64"), ("sbin", "usr/sbin"),
   ("var/lock", "run/lock"), ("var/run", "run")]

def Place.child (step : String) : Place → Place
  | .inside steps => .inside (steps ++ [step])
  | .outside steps =>
    let steps := steps ++ [step]
    match secondNames.lookup (ofSteps steps) with
    | some first => .outside (stepsOf first)
    | none => .outside steps

/-- The folders that every machine has. -/
def standardFolders : List String :=
  ["boot", "dev", "dev/pts", "dev/shm", "etc", "etc/opt", "home", "media", "mnt", "opt", "proc",
   "root", "run", "run/lock", "srv", "sys", "tmp", "usr", "usr/bin", "usr/games", "usr/include",
   "usr/lib", "usr/lib64", "usr/libexec", "usr/local", "usr/sbin", "usr/share", "usr/src", "var",
   "var/backups", "var/cache", "var/lib", "var/local", "var/log", "var/mail", "var/opt",
   "var/spool", "var/tmp"]

/-- The null device reads as an empty file. -/
def nullDevice : List String := ["dev", "null"]

/-- The place is the folder itself, has files below it, or is a folder of the machine. -/
def hasFolder (folder : Folder) : Place → Bool
  | .inside steps =>
    steps.isEmpty || folder.names.any fun name =>
      let whole := stepsOf name
      steps.isPrefixOf whole && steps.length < whole.length
  | .outside steps => steps.isEmpty || standardFolders.contains (ofSteps steps)

/-- The bytes of the file at a place. -/
def bytes? (folder : Folder) : Place → Option ByteArray
  | .inside steps => folder.find? (ofSteps steps)
  | .outside steps => if steps = nullDevice then some .empty else none

/-- Follows the steps of a path from a place. -/
def walk (folder : Folder) : Place → List String → Except FileError Place
  | place, [] => .ok place
  | place, step :: rest =>
    if !folder.hasFolder place then
      .error (if (folder.bytes? place).isSome then .notDirectory else .notFound)
    else if step = "" ∨ step = "." then folder.walk place rest
    else if step = ".." then folder.walk place.parent rest
    else if longestName < step.utf8ByteSize then .error .nameTooLong
    else folder.walk (place.child step) rest

/-- The text of a file. A path with a slash in front starts in the outermost folder; the empty path
is the folder itself. -/
def read (folder : Folder) (path : String) : Except FileError String := do
  if path.toList.contains '\x00' then throw .zeroInName
  if longestPath < path.utf8ByteSize then throw .nameTooLong
  let start := if path.toList.head? = some '/' then Place.outside [] else .inside []
  let place ← folder.walk start (stepsOf path)
  match folder.bytes? place with
  | some bytes =>
    match String.fromUTF8? bytes with
    | some text => return text
    | none => throw .notUtf8
  | none => throw (if folder.hasFolder place then .isDirectory else .notFound)

end Folder

end CrontabRenderer
