/-
This file holds the configuration of a run. A value on the command line goes before one of the
settings file, and that before the standard.
-/

import SheetLint.Linter.Installed
import SheetLint.Selector
import SheetLint.Settings.File

namespace SheetLint

/-- This is everything that a run needs to know. Without a working directory the linter runs in
the current one. -/
structure Configuration where
  root : Path
  settingsFound : Bool
  executable : String
  arguments : List String
  selector : String
  output : String
  workingDirectory : Option Path
  styleMarker : String
  missingBlock : StyleBlock.MissingPolicy
  environment : Environment
  deriving DecidableEq

/-- These are the values that the command line may give. -/
structure Overrides where
  root : Option String
  executable : Option String
  workingDirectory : Option String
  output : Option String
  deriving DecidableEq, Repr

namespace Configuration

def standard : Configuration where
  root := ⟨['.']⟩
  settingsFound := false
  executable := standardExecutable
  arguments := []
  selector := Selector.standard
  output := "human"
  workingDirectory := none
  styleMarker := StyleBlock.standardMarker
  missingBlock := .zero
  environment := []

/-- This function puts settings over the standard. Their working directory lies under the root. -/
def ofSettings (root : Path) (settings : Settings) : Configuration where
  root
  settingsFound := true
  executable := settings.executable.getD standard.executable
  arguments := settings.arguments.getD standard.arguments
  selector := settings.selector.getD standard.selector
  output := settings.output.getD standard.output
  workingDirectory := settings.workingDirectory.map fun directory =>
    root.join (Path.ofString directory)
  styleMarker := settings.styleMarker.getD standard.styleMarker
  missingBlock := settings.missingBlock.getD standard.missingBlock
  environment := settings.environment.getD standard.environment

/-- This function puts the values of the command line over a configuration. -/
def override (configuration : Configuration) (overrides : Overrides) : Configuration :=
  { configuration with
    executable := overrides.executable.getD configuration.executable
    output := overrides.output.getD configuration.output
    workingDirectory :=
      (overrides.workingDirectory.map Path.ofString).or configuration.workingDirectory }

/-- This is the directory in which the search for the root starts. -/
def startOf (overrides : Overrides) : Path :=
  Path.ofString (overrides.root.getD ".")

/-- This function finds the root, reads the settings file and puts everything together. -/
def resolve (host : Host) (overrides : Overrides) : Except LintError Configuration := do
  let root := Settings.detectRoot host (startOf overrides)
  let configuration := match ← Settings.load host root with
    | some settings => ofSettings root settings
    | none => { standard with root }
  return configuration.override overrides

end Configuration

end SheetLint
