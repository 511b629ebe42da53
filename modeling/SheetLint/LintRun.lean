/-
This file lints all files that fit some patterns and are selected.
-/

import SheetLint.Glob.Search
import SheetLint.Linter
import SheetLint.LintResult
import SheetLint.Rendering.Terminal
import SheetLint.Selector.Scopes

namespace SheetLint

/-- This is the report on a file whose linting succeeded or not. -/
def FileReport.ofPass (file : String) : Except LintError LintPass → FileReport
  | .ok pass => ⟨file, pass.diagnostics, pass.failures.map Failure.message, none⟩
  | .error error => ⟨file, [], [], some error.message⟩

/-- These are the log lines of a pass as they are shown. -/
def LintPass.shownLogs (pass : LintPass) : List String :=
  pass.logs.map Terminal.harmless

/-- This is the report on the file at a path, under its name as seen from the root. -/
def Runner.reportFile (runner : Runner) (host : Host) (root path : Path) : FileReport :=
  FileReport.ofPass (path.displayUnder root).toString (runner.lintPath host path)

/-- These are the log lines of the file at a path as they are shown. A file that cannot be linted
has none. -/
def Runner.pathLogs (runner : Runner) (host : Host) (path : Path) : List String :=
  match runner.lintPath host path with
  | .ok pass => pass.shownLogs
  | .error _ => []

/-- This is the result for an output that was not made by this run. Its notes are kept as texts from
the start. -/
def LintResult.ofOutput (label output : String) (offset : Nat) : LintResult :=
  let diagnosis := diagnose offset output
  let texts := diagnosis.notify (fun texts failure => texts ++ [failure.message]) []
  ⟨[⟨label, diagnosis.pending.drain.1, texts, none⟩]⟩

namespace LintRun

/-- This function puts a path into a list in the order of paths, unless an equal path is there. -/
def insertPath (path : Path) : List Path → List Path
  | [] => [path]
  | first :: others =>
      match path.compare first with
      | .lt => path :: first :: others
      | .eq => first :: others
      | .gt => first :: insertPath path others

/-- These are paths in their order, every one once. -/
def sortPaths (paths : List Path) : List Path :=
  paths.foldl (fun sorted path => insertPath path sorted) []

/-- These are the files under a root that fit a pattern. -/
def filesOf (host : Host) (root : Path) (pattern : String) : List Path :=
  (Glob.expand host.tree host.current (root.join (Path.ofString pattern)).characters).filter
    host.isFile

/-- These are the files under a root that fit one of the patterns. -/
def expandPatterns (host : Host) (root : Path) (patterns : List String) : List Path :=
  sortPaths (patterns.flatMap (filesOf host root))

/-- These are the files to be linted. Force makes the selector irrelevant. -/
def targets (host : Host) (configuration : Configuration) (patterns : List String)
    (force : Bool) : List Path :=
  let selector := Selector.parse configuration.selector
  (expandPatterns host configuration.root patterns).filter fun path =>
    force || selector.appliesTo path

/-- This is the log line with what the linter wrote to its standard error output, if anything. -/
def complaintLog (host : Host) (configuration : Configuration) (path : Path) : List String :=
  match Document.ofFile host path with
  | .error _ => []
  | .ok document =>
      let complaints := configuration.complaints host document
      if complaints.isEmpty then []
      else ["linter stderr stderr=" ++ String.ofList (Text.decodeLossy complaints)]

/-- These are the log lines of the files to be linted, in the order of the files. A verbose run
also shows what the linter complained about. -/
def logs (host : Host) (configuration : Configuration) (patterns : List String)
    (force verbose : Bool) : List String :=
  let runner : Runner := configuration.runLinter host
  (targets host configuration patterns force).flatMap fun path =>
    (if verbose then complaintLog host configuration path else []) ++ runner.pathLogs host path

end LintRun

/-- This function lints the files one by one; what goes wrong with one file does not concern the
others. -/
def runLint (host : Host) (configuration : Configuration) (patterns : List String)
    (force : Bool) : LintResult :=
  let runner : Runner := configuration.runLinter host
  ⟨(LintRun.targets host configuration patterns force).map
    (runner.reportFile host configuration.root)⟩

end SheetLint
