/-
This file finds the linter that is installed beside the documents.
-/

import SheetLint.Host

namespace SheetLint

/-- This is the name of the linter. Only this name starts the search for an installed one. -/
def standardExecutable : String := "stylelint"

/-- This is where an installed linter lies in a directory. -/
def Path.installedLinter (directory : Path) : Path :=
  ((directory.join (Path.ofString "node_modules")).join (Path.ofString ".bin")).join
    (Path.ofString standardExecutable)

/-- This is the program to call: an installed linter when only the name of the linter is given,
and what is given otherwise. -/
def chooseProgram (host : Host) (executable : String) (start : Path) : String :=
  if executable = standardExecutable then
    match start.firstUpward fun directory => host.isFile directory.installedLinter with
    | some directory => directory.installedLinter.toString
    | none => executable
  else executable

end SheetLint
