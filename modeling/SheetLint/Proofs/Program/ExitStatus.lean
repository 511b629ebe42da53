/-
This file shows with which status the program ends. Linting files and reading a saved output follow
one rule, though the second never looks at the errors of files.
-/

import SheetLint.Program
import SheetLint.Proofs.LintResult.Totals
import SheetLint.Proofs.Linter.Answers

namespace SheetLint

namespace LintResult

/-- A saved output gives one report. Nothing can go wrong with a file there. -/
theorem files_ofOutput (label output : String) (offset : Nat) :
    ∃ report, ofOutput label output offset = ⟨[report]⟩ ∧ ¬ report.Aborted :=
  ⟨_, rfl, fun aborted => aborted rfl⟩

theorem not_aborted_ofOutput (label output : String) (offset : Nat) :
    ¬ ∃ report ∈ (ofOutput label output offset).files, report.Aborted := by
  obtain ⟨report, single, complete⟩ := files_ofOutput label output offset
  rw [single]
  simpa using complete

end LintResult

namespace Program

variable {setting : Setting} {arguments : List String}

theorem run_of_read {commandLine : CommandLine}
    (read : CommandLine.read arguments = .ok commandLine) :
    run setting arguments = carryOut setting commandLine.verbose commandLine.order := by
  rw [run, read]

/-- What is read from a saved output counts like the reports on files. -/
theorem exitStatus_runParseOrder {input output : Option String} {label text : String}
    (found : readInput setting input = .ok (label, text)) (offset : Nat) :
    (runParseOrder setting input offset output).exitStatus =
      (LintResult.ofOutput label text offset).exitStatus := by
  rw [runParseOrder, found]
  have complete := LintResult.not_aborted_ofOutput label text offset
  exact (LintResult.exitStatus_of_not_aborted _ complete).symm

theorem runParseOrder_of_error {input : Option String} {cause : OsError}
    (missing : readInput setting input = .error cause) (offset : Nat) (output : Option String) :
    runParseOrder setting input offset output = failed setting cause.message := by
  rw [runParseOrder, missing]

/-- Reading a saved output ends with two exactly when there is nothing to read. -/
theorem exitStatus_runParseOrder_eq_two_iff (input output : Option String) (offset : Nat) :
    (runParseOrder setting input offset output).exitStatus = 2 ↔
      ∃ cause, readInput setting input = .error cause := by
  cases found : readInput setting input with
  | error cause =>
      rw [runParseOrder_of_error found]
      exact iff_of_true rfl ⟨cause, rfl⟩
  | ok input =>
      obtain ⟨label, text⟩ := input
      have complete := LintResult.not_aborted_ofOutput label text offset
      rw [exitStatus_runParseOrder found]
      exact iff_of_false (mt (LintResult.exitStatus_eq_two_iff _).mp complete) (by simp)

theorem runLintOrder_of_error {overrides : Overrides} {error : LintError}
    (unresolved : Configuration.resolve setting.host overrides = .error error)
    (patterns : List String) (force verbose : Bool) :
    runLintOrder setting patterns overrides force verbose = failed setting error.message := by
  unfold runLintOrder
  rw [unresolved]

theorem exitStatus_runLintOrder {overrides : Overrides} {configuration : Configuration}
    (resolved : Configuration.resolve setting.host overrides = .ok configuration)
    (patterns : List String) (force verbose : Bool) :
    (runLintOrder setting patterns overrides force verbose).exitStatus =
      (runLint setting.host configuration patterns force).exitStatus := by
  unfold runLintOrder
  rw [resolved]

/-- This is the setting with another tool in the place of the linter. -/
def Setting.withTool (setting : Setting) (execute : Execution → Streams) : Setting :=
  { setting with host := setting.host.withTool execute }

/-- Counts add up over lists of reports, and the more serious status wins: two for a file that could
not be linted, one for problems, zero otherwise. An output that was saved has the status of its one
report, unless it cannot be read. Without a configuration the status is two whatever the linter would
have done. -/
theorem exitStatus_of_orders (first second : List FileReport) :
    let count := fun files => (LintResult.mk files).summary
    let status := fun files => (LintResult.mk files).exitStatus
    count (first ++ second) =
      { errors := (count first).errors + (count second).errors
        warnings := (count first).warnings + (count second).warnings
        failures := (count first).failures + (count second).failures
        files := (count first).files + (count second).files } ∧
    (count first).errors + (count first).warnings =
      (first.flatMap FileReport.diagnostics).length ∧
    status (first ++ second) = max (status first) (status second) ∧
    (status first = 2 ↔ ∃ report ∈ first, report.Aborted) ∧
    (status first = 1 ↔
      (∀ report ∈ first, ¬ report.Aborted) ∧ ∃ report ∈ first, report.Troubled) ∧
    (status first = 0 ↔ ∀ report ∈ first, ¬ report.Aborted ∧ ¬ report.Troubled) ∧
    (∀ setting arguments verbose input offset output,
      CommandLine.read arguments = .ok ⟨verbose, .parse input offset output⟩ →
        ((run setting arguments).exitStatus = 2 ↔
          ∃ cause, readInput setting input = .error cause) ∧
        ∀ label text, readInput setting input = .ok (label, text) →
          ∃ report, LintResult.ofOutput label text offset = ⟨[report]⟩ ∧
            (run setting arguments).exitStatus = status [report]) ∧
    ∀ setting arguments verbose patterns overrides force,
      CommandLine.read arguments = .ok ⟨verbose, .lint patterns overrides force⟩ →
        match Configuration.resolve setting.host overrides with
        | .ok configuration =>
            (run setting arguments).exitStatus =
              status (runLint setting.host configuration patterns force).files
        | .error error =>
            (run setting arguments).exitStatus = 2 ∧
              ∀ execute, run (setting.withTool execute) arguments =
                failed setting error.message := by
  intro count status
  refine ⟨LintResult.summary_append first second, LintResult.errors_add_warnings first,
    LintResult.exitStatus_append first second, LintResult.exitStatus_eq_two_iff first,
    LintResult.exitStatus_eq_one_iff first, LintResult.exitStatus_eq_zero_iff first, ?_, ?_⟩
  · intro setting arguments verbose input offset output read
    rw [run_of_read read]
    refine ⟨exitStatus_runParseOrder_eq_two_iff input output offset, ?_⟩
    intro label text found
    obtain ⟨report, single, -⟩ := LintResult.files_ofOutput label text offset
    refine ⟨report, single, ?_⟩
    change _ = (LintResult.mk [report]).exitStatus
    rw [← single]
    exact exitStatus_runParseOrder found offset
  · intro setting arguments verbose patterns overrides force read
    cases resolved : Configuration.resolve setting.host overrides with
    | ok configuration =>
        rw [run_of_read read]
        exact exitStatus_runLintOrder resolved patterns force verbose
    | error error =>
        -- the tool has no part in the search for the settings
        have unresolved (execute : Execution → Streams) :
            Configuration.resolve (setting.withTool execute).host overrides = .error error :=
          resolved
        have ended (execute : Execution → Streams) :
            run (setting.withTool execute) arguments = failed setting error.message := by
          rw [run_of_read read]
          exact runLintOrder_of_error (unresolved execute) patterns force verbose
        refine ⟨?_, ended⟩
        exact congrArg RunResult.exitStatus (ended setting.host.execute)

end Program

end SheetLint
