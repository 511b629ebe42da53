/-
This file compares a file that is linted with an output that was saved. The same output leads to the
same findings, counts and exit status, whichever way it comes in. A file that cannot be linted leaves
its error and nothing else.
-/

import SheetLint.Proofs.Diagnosis.Channels
import SheetLint.Proofs.Linter.Answers
import SheetLint.Proofs.Program.ExitStatus

namespace SheetLint

namespace Runner

/-- The file at the path can be read, and the linter gives this output for it. -/
def Returns (runner : Runner) (host : Host) (path : Path) (output : RawOutput) : Prop :=
  ∃ text, host.readText path = .ok text ∧ runner ⟨some path, text⟩ = .ok output

/-- The file at the path cannot be read as text, or the linter cannot be run on it. -/
inductive Fails (runner : Runner) (host : Host) (path : Path) : LintError → Prop where
  | unreadable {cause : OsError} (missing : host.readText path = .error cause) :
      Fails runner host path (.file cause)
  | failed {text : String} {error : LintError} (read : host.readText path = .ok text)
      (ran : runner ⟨some path, text⟩ = .error error) : Fails runner host path error

variable {runner : Runner} {host : Host} {path : Path}

theorem lintPath_of_returns {output : RawOutput} (returns : runner.Returns host path output) :
    runner.lintPath host path = .ok output.diagnose := by
  obtain ⟨text, read, ran⟩ := returns
  rw [runner.lintPath_of_readText read, lintDocument, ran]
  rfl

theorem lintPath_of_fails {error : LintError} (fails : runner.Fails host path error) :
    runner.lintPath host path = .error error := by
  cases fails with
  | unreadable missing => exact runner.lintPath_of_unreadable missing
  | failed read ran =>
      rw [runner.lintPath_of_readText read, lintDocument, ran]
      rfl

/-- Nothing but the error is left of the linting of a file. Among other files it counts as one
failure. -/
structure Abandoned (runner : Runner) (host : Host) (root path : Path) (error : LintError) :
    Prop where
  report : runner.reportFile host root path =
    { file := (path.displayUnder root).toString
      diagnostics := []
      failures := []
      error := some error.message }
  logs : runner.pathLogs host path = []
  counted : ∀ before after,
    (LintResult.mk (before ++ runner.reportFile host root path :: after)).summary =
      (LintResult.mk (before ++ after)).summary.add
        { errors := 0, warnings := 0, failures := 1, files := 1 }
  status : ∀ before after,
    (LintResult.mk (before ++ runner.reportFile host root path :: after)).exitStatus = 2

theorem abandoned_of_fails {error : LintError} (fails : runner.Fails host path error)
    (root : Path) : Abandoned runner host root path error := by
  have report : runner.reportFile host root path =
      ⟨(path.displayUnder root).toString, [], [], some error.message⟩ := by
    rw [reportFile, lintPath_of_fails fails]
    rfl
  refine ⟨report, ?_, ?_, ?_⟩
  · rw [pathLogs, lintPath_of_fails fails]
  · intro before after
    rw [report, LintResult.summary_append, LintResult.summary_append, LintResult.summary_cons]
    simp only [Summary.add, Summary.ofFile, List.countP_nil, List.length_nil, Option.toList_some,
      List.length_singleton, Nat.zero_add, Nat.add_zero, Summary.mk.injEq, true_and]
    omega
  · intro before after
    rw [LintResult.exitStatus_eq_two_iff, report]
    refine ⟨_, List.mem_append_right before List.mem_cons_self, ?_⟩
    exact Option.some_ne_none _

/-- The report on a file finds what the saved output of its linter shows. -/
theorem sameFindings_of_returns {output : String} {offset : Nat}
    (returns : runner.Returns host path ⟨output, offset⟩) (root : Path) (label : String) :
    ∃ saved, LintResult.ofOutput label output offset = ⟨[saved]⟩ ∧
      (runner.reportFile host root path).error = none ∧ saved.error = none ∧
      FileReport.SameFindings (runner.reportFile host root path) saved := by
  refine ⟨_, rfl, ?_⟩
  rw [reportFile, lintPath_of_returns returns, Diagnosis.notify_texts]
  exact ⟨rfl, rfl, rfl, rfl, rfl⟩

end Runner

namespace Program

/-- The program is to lint one file, for which the linter gives the output, and comes to this
result. -/
def LintsOne (setting : Setting) (arguments : List String) (output : RawOutput)
    (result : LintResult) : Prop :=
  ∃ verbose patterns overrides force configuration path,
    CommandLine.read arguments = .ok ⟨verbose, .lint patterns overrides force⟩ ∧
    Configuration.resolve setting.host overrides = .ok configuration ∧
    LintRun.targets setting.host configuration patterns force = [path] ∧
    Runner.Returns (configuration.runLinter setting.host) setting.host path output ∧
    result = runLint setting.host configuration patterns force

/-- The program is to read the output that was saved, and comes to this result. -/
def ReadsSaved (setting : Setting) (arguments : List String) (output : RawOutput)
    (result : LintResult) : Prop :=
  ∃ verbose input mode label,
    CommandLine.read arguments = .ok ⟨verbose, .parse input output.offset mode⟩ ∧
    readInput setting input = .ok (label, output.text) ∧
    result = LintResult.ofOutput label output.text output.offset

/-- The saved output of a linter leads to the counts and the exit status that linting the file leads
to. -/
theorem exitStatus_of_same_output {setting other : Setting} {arguments others : List String}
    {output : RawOutput} {result saved : LintResult}
    (lints : LintsOne setting arguments output result)
    (reads : ReadsSaved other others output saved) :
    result.summary = saved.summary ∧
      (run setting arguments).exitStatus = (run other others).exitStatus := by
  obtain ⟨verbose, patterns, overrides, force, configuration, path, ordered, resolved, single,
    returns, rfl⟩ := lints
  obtain ⟨verbose', input, mode, label, ordered', found, rfl⟩ := reads
  obtain ⟨report, reported, -, -, findings⟩ :=
    Runner.sameFindings_of_returns returns configuration.root label
  have alike : List.Forall₂ FileReport.SameFindings
      (runLint setting.host configuration patterns force).files
      (LintResult.ofOutput label output.text output.offset).files := by
    rw [runLint, single, reported]
    exact .cons findings .nil
  refine ⟨LintResult.summary_of_sameFindings alike, ?_⟩
  rw [run_of_read ordered, run_of_read ordered']
  change (runLintOrder setting patterns overrides force verbose).exitStatus =
    (runParseOrder other input output.offset mode).exitStatus
  rw [exitStatus_runLintOrder resolved, exitStatus_runParseOrder found]
  exact LintResult.exitStatus_of_sameFindings alike

example :
    let tree : FileTree := ⟨[(["a.css".toList], .file [] false), (["bin".toList], .directory),
      (["bin".toList, "stylelint".toList], .command "stylelint".toList)]⟩
    let output := "nope".toUTF8.toList
    let setting : Setting := ⟨⟨tree, [], fun _ => ⟨output, []⟩⟩, output, true⟩
    (run setting ["lint", "a.css"]).exitStatus = 1 ∧ (run setting ["parse"]).exitStatus = 1 := by
  decide +kernel

end Program

namespace Runner

/-- A file for which the linter gives an output has the diagnostics and failures that the output has
when it is read after it was saved, and so the counts and the exit status. A file that cannot be read
as text, or on which the linter fails, leaves only its error. -/
theorem reportFile_agrees_with_saved (runner : Runner) (host : Host) (root path : Path) :
    let entry := runner.reportFile host root path
    (∀ output offset label, runner.Returns host path ⟨output, offset⟩ →
      ∃ saved, LintResult.ofOutput label output offset = ⟨[saved]⟩ ∧
        entry.diagnostics = saved.diagnostics ∧ entry.failures = saved.failures ∧
        entry.error = none ∧ saved.error = none ∧
        (LintResult.mk [entry]).summary = (LintResult.mk [saved]).summary ∧
        (LintResult.mk [entry]).exitStatus = (LintResult.mk [saved]).exitStatus) ∧
    (∀ setting arguments other others output result saved,
      Program.LintsOne setting arguments output result →
      Program.ReadsSaved other others output saved →
        result.summary = saved.summary ∧
          (Program.run setting arguments).exitStatus = (Program.run other others).exitStatus) ∧
    (∀ error, runner.Fails host path error → Abandoned runner host root path error) := by
  intro entry
  refine ⟨?_, ?_, fun error fails => abandoned_of_fails fails root⟩
  · intro output offset label returns
    obtain ⟨saved, single, complete, complete', findings⟩ :=
      sameFindings_of_returns returns root label
    have alike : List.Forall₂ FileReport.SameFindings [entry] [saved] := .cons findings .nil
    exact ⟨saved, single, findings.diagnostics, findings.failures, complete, complete',
      LintResult.summary_of_sameFindings alike, LintResult.exitStatus_of_sameFindings alike⟩
  · intro setting arguments other others output result saved lints reads
    exact Program.exitStatus_of_same_output lints reads

end Runner

end SheetLint
