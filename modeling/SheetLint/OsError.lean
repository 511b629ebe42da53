/-
This file names the failures of files and processes.
-/

namespace SheetLint

inductive OsError where
  | notFound
  | permissionDenied
  | notDirectory
  | isDirectory
  | nameTooLong
  /-- A file that is to be run is neither a program nor a script. -/
  | notExecutable
  /-- A path that is to be opened holds the character zero. -/
  | zeroInPath
  /-- A program, an argument or a setting of a process holds the character zero. -/
  | zeroInProcess
  | notText
  | other (message : String)
  deriving DecidableEq, Repr

namespace OsError

def description : OsError → String
  | .notFound => "No such file or directory"
  | .permissionDenied => "Permission denied"
  | .notDirectory => "Not a directory"
  | .isDirectory => "Is a directory"
  | .notExecutable => "Exec format error"
  | .nameTooLong => "File name too long"
  | .zeroInPath => "file name contained an unexpected NUL byte"
  | .zeroInProcess => "nul byte found in provided data"
  | .notText => "stream did not contain valid UTF-8"
  | .other message => message

/-- This is the number that the system gives to a failure of its own. -/
def number? : OsError → Option Nat
  | .notFound => some 2
  | .notExecutable => some 8
  | .permissionDenied => some 13
  | .notDirectory => some 20
  | .isDirectory => some 21
  | .nameTooLong => some 36
  | _ => none

def message (error : OsError) : String :=
  match error.number? with
  | some number => error.description ++ " (os error " ++ toString number ++ ")"
  | none => error.description

end OsError

end SheetLint
