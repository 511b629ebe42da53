/-
This file shows how much of the tool the linting of one file needs: its answer to the one process
that is started for that file. What the tool does elsewhere makes no difference.
-/

import SheetLint.Linter

namespace SheetLint

/-- This is the host with another tool. -/
def Host.withTool (host : Host) (execute : Execution → Streams) : Host :=
  { host with execute }

variable {host : Host} {execute : Execution → Streams}

namespace Invocation

theorem executableAt_withTool (directory : Place) (path : Path) :
    executableAt (host.withTool execute) directory path = executableAt host directory path := rfl

theorem searchIn_withTool (directory : Place) (name : List Char) (missing : OsError)
    (places : List Path) :
    searchIn (host.withTool execute) directory name missing places =
      searchIn host directory name missing places := by
  induction places generalizing missing with
  | nil => rfl
  | cons place others inductionHypothesis =>
      rw [searchIn, searchIn, executableAt_withTool]
      simp only [inductionHypothesis]

theorem locate_withTool (directory : Place) (environment : Environment) (program : String) :
    locate (host.withTool execute) directory environment program =
      locate host directory environment program := by
  simp only [locate, searchIn_withTool, executableAt_withTool]

/-- A call is made ready without the tool. -/
theorem prepare_withTool (invocation : Invocation) (input : Bytes) :
    invocation.prepare (host.withTool execute) input = invocation.prepare host input := by
  rw [prepare, prepare]
  simp only [locate_withTool]
  rfl

theorem run_of_same_answer {invocation : Invocation} {input : Bytes}
    (same : ∀ execution, invocation.prepare host input = .ok execution →
      execute execution = host.execute execution) :
    invocation.run (host.withTool execute) input = invocation.run host input := by
  rw [run, run, prepare_withTool]
  cases prepared : invocation.prepare host input with
  | error cause => rfl
  | ok execution => exact congrArg Except.ok (same execution prepared)

theorem runText_of_same_answer {invocation : Invocation} {input : Bytes}
    (same : ∀ execution, invocation.prepare host input = .ok execution →
      execute execution = host.execute execution) :
    invocation.runText (host.withTool execute) input = invocation.runText host input := by
  rw [runText, runText, run_of_same_answer same]

end Invocation

namespace Runner

variable {path : Path} (runner : Runner)

theorem lintPath_of_readText {text : String} (read : host.readText path = .ok text) :
    runner.lintPath host path = runner.lintDocument ⟨some path, text⟩ := by
  rw [lintPath, Document.ofFile, read]
  rfl

theorem lintPath_of_unreadable {cause : OsError} (missing : host.readText path = .error cause) :
    runner.lintPath host path = .error (.file cause) := by
  rw [lintPath, Document.ofFile, missing]
  rfl

end Runner

namespace Configuration

/-- The linter is started in this way for the file at a path. -/
structure Starts (configuration : Configuration) (host : Host) (path : Path) (text : String)
    (execution : Execution) : Prop where
  read : host.readText path = .ok text
  located : ∃ offset, configuration.blockOffset host ⟨some path, text⟩ = .ok offset
  prepared : (configuration.invocation host ⟨some path, text⟩).prepare host text.toUTF8.toList =
    .ok execution

variable {configuration : Configuration} {path : Path}

theorem runLinter_of_same_answer {text : String} (read : host.readText path = .ok text)
    (same : ∀ execution, configuration.Starts host path text execution →
      execute execution = host.execute execution) :
    configuration.runLinter (host.withTool execute) ⟨some path, text⟩ =
      configuration.runLinter host ⟨some path, text⟩ := by
  have offset : configuration.blockOffset (host.withTool execute) ⟨some path, text⟩ =
      configuration.blockOffset host ⟨some path, text⟩ := rfl
  have invocation : configuration.invocation (host.withTool execute) ⟨some path, text⟩ =
      configuration.invocation host ⟨some path, text⟩ := rfl
  rw [runLinter, runLinter, offset, invocation]
  cases located : configuration.blockOffset host ⟨some path, text⟩ with
  | error error => rfl
  | ok offset =>
      rw [Invocation.runText_of_same_answer]
      intro execution prepared
      exact same execution ⟨read, ⟨offset, located⟩, prepared⟩

/-- A tool that answers alike to the process for one file gives the same for that file. -/
theorem lintPath_of_same_answer
    (same : ∀ text execution, configuration.Starts host path text execution →
      execute execution = host.execute execution) :
    Runner.lintPath (configuration.runLinter (host.withTool execute)) (host.withTool execute) path =
      Runner.lintPath (configuration.runLinter host) host path := by
  cases read : host.readText path with
  | error cause =>
      rw [Runner.lintPath_of_unreadable _ read]
      exact Runner.lintPath_of_unreadable _ read
  | ok text =>
      have output := runLinter_of_same_answer read (same text)
      have again : (host.withTool execute).readText path = .ok text := read
      rw [Runner.lintPath_of_readText _ read, Runner.lintPath_of_readText _ again,
        Runner.lintDocument, Runner.lintDocument, output]

end Configuration

end SheetLint
