/-
This file finds the settings file of a project and reads it.
-/

import SheetLint.Host
import SheetLint.LintError
import SheetLint.Settings.Defect

namespace SheetLint.Settings

/-- These are the names of a settings file, each with its format, in the order of preference. -/
def fileNames : List (String × Format) :=
  [("stylebridge.toml", .toml), ("stylebridge.yaml", .yaml), ("stylebridge.yml", .yaml)]

/-- This test holds for the directories that end the search for the root of a project: those with
a settings file and those under version control. -/
def marksRoot (host : Host) (directory : Path) : Bool :=
  (fileNames.map Prod.fst ++ [".git"]).any fun name =>
    host.pathExists (directory.join (Path.ofString name))

/-- This is the root of the project around a directory, or the directory itself where there is no
such root. -/
def detectRoot (host : Host) (start : Path) : Path :=
  (start.firstUpward (marksRoot host)).getD start

/-- This function reads the file at a path. -/
def readFile (host : Host) (path : Path) (format : Format) : Except LintError Settings := do
  let text ← (host.readText path).mapError LintError.file
  (format.read text).mapError (LintError.settings path)

/-- This function reads the first settings file that exists among some names. -/
def loadAmong (host : Host) (root : Path) :
    List (String × Format) → Except LintError (Option Settings)
  | [] => .ok Option.none
  | (name, format) :: others =>
      let path := root.join (Path.ofString name)
      if host.pathExists path then (readFile host path format).map some
      else loadAmong host root others

/-- These are the settings of the project with a root, if it has any. -/
def load (host : Host) (root : Path) : Except LintError (Option Settings) :=
  loadAmong host root fileNames

end SheetLint.Settings
