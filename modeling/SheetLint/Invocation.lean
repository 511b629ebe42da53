/-
This file holds the call of the linter as a process and starts it.
-/

import SheetLint.Host
import SheetLint.Interpreter
import SheetLint.Text.Blank

namespace SheetLint

/-- This is a call of a program. -/
structure Invocation where
  program : String
  arguments : List String
  directory : Path
  environment : Environment
  deriving DecidableEq

namespace Invocation

/-- This is the call of the linter for one document: own arguments first, then the format of the
report, then the name of the document when it has one. -/
def ofLinter (program : String) (arguments : List String) (document : Option Path) : Invocation :=
  { program
    arguments := arguments ++ ["--formatter", "json"] ++
      match document with
      | some path => ["--stdin-filename", path.toString]
      | none => []
    directory := ⟨['.']⟩
    environment := [] }

def inDirectory (invocation : Invocation) (directory : Path) : Invocation :=
  { invocation with directory }

def withEnvironment (invocation : Invocation) (environment : Environment) : Invocation :=
  { invocation with environment := invocation.environment.setAll environment }

def hasZero (text : String) : Bool :=
  text.toList.contains '\u0000'

/-- This test holds when some text that the system has to be given holds the character zero. -/
def holdsZero (invocation : Invocation) : Bool :=
  hasZero invocation.program || invocation.arguments.any hasZero ||
    invocation.directory.characters.contains '\u0000' ||
    invocation.environment.any fun entry => hasZero entry.1 || hasZero entry.2

/-- This function tells what a path leads to when it is to be run. A script needs a program of the
system that reads it. -/
def executableAt (host : Host) (directory : Place) (path : Path) :
    Except OsError Executable := do
  let place ← host.tree.resolve directory path
  match host.tree.get? place with
  | none => throw .notFound
  | some .directory => throw .permissionDenied
  | some (.file _ false) => throw .permissionDenied
  | some (.command name) => return .command name
  | some (.file content true) =>
      match Interpreter.read? content with
      | none => throw .notExecutable
      | some interpreter =>
          let reader ← host.tree.resolve directory interpreter.path
          match host.tree.get? reader with
          | some (.command _) => return .script place
          | _ => throw .permissionDenied

/-- These are the directories in which programs are looked for by name. -/
def searchDirectories (environment : Environment) : List Path :=
  match environment.lookup "PATH" with
  | none => ["/usr/bin", "/bin"].map Path.ofString
  | some text =>
      (Text.cut (· == ':') text.toList).map fun name =>
        if name.isEmpty then ⟨['.']⟩ else ⟨name⟩

/-- This function looks for a program in some directories. A program that must not be run is passed
over, but remembered. -/
def searchIn (host : Host) (directory : Place) (name : List Char) (missing : OsError) :
    List Path → Except OsError Executable
  | [] => .error missing
  | place :: others =>
      match executableAt host directory (place.join ⟨name⟩) with
      | .ok executable => .ok executable
      | .error .notFound => searchIn host directory name missing others
      | .error .notDirectory => searchIn host directory name missing others
      | .error .permissionDenied => searchIn host directory name .permissionDenied others
      | .error cause => .error cause

/-- This function finds the program. A name with a slash is a path as seen from the directory in
which the process runs; any other name is searched for. -/
def locate (host : Host) (directory : Place) (environment : Environment) (program : String) :
    Except OsError Executable :=
  let name := program.toList
  if name.contains '/' then executableAt host directory ⟨name⟩
  else if name.isEmpty then .error .notFound
  else if FileTree.nameLimit < Text.byteCount name then .error .nameTooLong
  else searchIn host directory name .notFound (searchDirectories environment)

/-- This is the directory in which the process runs. -/
def runDirectory (host : Host) (directory : Path) : Except OsError Place :=
  match host.tree.resolve host.current directory with
  | .error cause => .error cause
  | .ok place => if host.tree.isDirectoryAt place then .ok place else .error .notDirectory

/-- This function makes a call ready to run, unless it cannot be started. -/
def prepare (host : Host) (invocation : Invocation) (input : Bytes) :
    Except OsError Execution := do
  if invocation.holdsZero then throw .zeroInProcess
  let directory ← runDirectory host invocation.directory
  let executable ← locate host directory invocation.environment invocation.program
  return {
    executable
    name := invocation.program
    arguments := invocation.arguments
    directory
    environment := invocation.environment
    input }

/-- This is what the process writes. -/
def run (host : Host) (invocation : Invocation) (input : Bytes) : Except OsError Streams :=
  (invocation.prepare host input).map host.execute

end Invocation

end SheetLint
