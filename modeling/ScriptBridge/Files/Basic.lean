/-!
# ScriptBridge.Files.Basic

What a run needs of a file system, and how the operations fail.

The operations are an interface, so that a run is one definition: on a file tree in memory it is a pure function,
and the command line gives it the files of the machine.
-/

namespace ScriptBridge.Files

/-- Why an operation fails. -/
inductive Failure where
  | notPermitted
  | notFound
  | alreadyExists
  | notDirectory
  | isDirectory
  | invalid
  | nameTooLong
  | nulInPath
  /-- The file holds no text. -/
  | notText
  /-- Anything else, in words. -/
  | other (text : String)
  deriving DecidableEq, Repr

namespace Failure

/-- The number of a failure that the operating system reports. -/
def number? : Failure → Option Nat
  | notPermitted => some 1
  | notFound => some 2
  | alreadyExists => some 17
  | notDirectory => some 20
  | isDirectory => some 21
  | invalid => some 22
  | nameTooLong => some 36
  | _ => none

/-- The words for a failure, without its number. -/
def words : Failure → String
  | notPermitted => "Operation not permitted"
  | notFound => "No such file or directory"
  | alreadyExists => "File exists"
  | notDirectory => "Not a directory"
  | isDirectory => "Is a directory"
  | invalid => "Invalid argument"
  | nameTooLong => "File name too long"
  | nulInPath => "file name contained an unexpected NUL byte"
  | notText => "stream did not contain valid UTF-8"
  | other text => text

/-- The words for a failure. -/
def message (f : Failure) : String :=
  match f.number? with
  | some n => f.words ++ " (os error " ++ toString n ++ ")"
  | none => f.words

end Failure

/-- Files that a computation in `m` can use.  Paths are texts with `/` between their parts. -/
class FileSystem (m : Type → Type) where
  /-- The text of a file. -/
  read (path : String) : m (Except Failure String)
  /-- Removes a directory with everything below it.  If that fails, some of it may be gone. -/
  removeTree (path : String) : m (Except Failure Unit)
  /-- Makes a directory and those above it, unless they exist. -/
  makeDirectories (path : String) : m (Except Failure Unit)
  /-- Makes a file with the given text, in place of a file that exists. -/
  write (path text : String) : m (Except Failure Unit)

/-- A name below a directory. -/
def join (directory name : String) : String :=
  if directory.isEmpty || directory.endsWith "/" then directory ++ name else directory ++ "/" ++ name

end ScriptBridge.Files
