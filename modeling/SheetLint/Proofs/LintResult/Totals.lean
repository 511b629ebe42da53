/-
This file shows what a result counts and which exit status it calls for. Counts add up when lists of
reports are put together, and of two statuses the more serious one wins.
-/

import Mathlib.Data.List.Basic
import Mathlib.Data.List.Forall2
import SheetLint.LintResult

namespace SheetLint

/-- The file could not be linted. -/
def FileReport.Aborted (report : FileReport) : Prop :=
  report.error ≠ none

/-- The report has a note, or a diagnostic that counts as an error. -/
def FileReport.Troubled (report : FileReport) : Prop :=
  (∃ diagnostic ∈ report.diagnostics, diagnostic.severity = "error") ∨ report.failures ≠ []

namespace LintResult

variable (files others : List FileReport)

theorem summary_cons (report : FileReport) :
    (mk (report :: files)).summary = (Summary.ofFile report).add (mk files).summary := rfl

theorem summary_append :
    (mk (files ++ others)).summary = (mk files).summary.add (mk others).summary := by
  induction files with
  | nil => simp [summary, Summary.add]
  | cons report files inductionHypothesis =>
      rw [List.cons_append, summary_cons, inductionHypothesis, summary_cons]
      simp only [Summary.add, Nat.add_assoc]

/-- The counts of the files that pass a test and of all other files add up. -/
theorem summary_map_filter {Item : Type} (entry : Item → FileReport) (passes : Item → Bool)
    (items : List Item) :
    (mk (items.map entry)).summary =
      (mk ((items.filter passes).map entry)).summary.add
        (mk ((items.filter fun item => !passes item).map entry)).summary := by
  induction items with
  | nil => rfl
  | cons item items inductionHypothesis =>
      rw [List.map_cons, summary_cons, inductionHypothesis]
      cases passed : passes item with
      | true =>
          simp only [List.filter_cons, passed, Bool.not_true, if_true, Bool.false_eq_true, if_false,
            List.map_cons, summary_cons, Summary.add, Nat.add_assoc]
      | false =>
          simp only [List.filter_cons, passed, Bool.not_false, if_true, Bool.false_eq_true,
            if_false, List.map_cons, summary_cons, Summary.add, Nat.add_left_comm]

/-- Every diagnostic counts as an error or as a warning. -/
theorem errors_add_warnings :
    (mk files).summary.errors + (mk files).summary.warnings =
      (files.flatMap FileReport.diagnostics).length := by
  induction files with
  | nil => rfl
  | cons report files inductionHypothesis =>
      have counted := List.length_eq_countP_add_countP Diagnostic.isError
        (l := report.diagnostics)
      rw [List.flatMap_cons, List.length_append, ← inductionHypothesis, summary_cons, counted]
      simp only [Summary.add, Summary.ofFile]
      simp only [decide_not, Bool.decide_eq_true]
      omega

theorem errors_pos_iff :
    0 < (mk files).summary.errors ↔
      ∃ report ∈ files, ∃ diagnostic ∈ report.diagnostics, diagnostic.severity = "error" := by
  induction files with
  | nil => simp [summary]
  | cons report files inductionHypothesis =>
      rw [summary_cons, List.exists_mem_cons_iff, ← inductionHypothesis]
      simp only [Summary.add, Summary.ofFile, Nat.add_pos_iff_pos_or_pos, List.countP_pos_iff,
        Diagnostic.isError, beq_iff_eq]

theorem failures_pos_iff :
    0 < (mk files).summary.failures ↔
      ∃ report ∈ files, report.failures ≠ [] ∨ report.Aborted := by
  induction files with
  | nil => simp [summary]
  | cons report files inductionHypothesis =>
      have failed : 0 < report.error.toList.length ↔ report.Aborted := by
        cases error : report.error <;> simp [FileReport.Aborted, error]
      rw [summary_cons, List.exists_mem_cons_iff, ← inductionHypothesis]
      simp only [Summary.add, Summary.ofFile, Nat.add_pos_iff_pos_or_pos, failed,
        List.length_pos_iff]

theorem hasProblems_iff :
    (mk files).hasProblems = true ↔ ∃ report ∈ files, report.Aborted ∨ report.Troubled := by
  rw [hasProblems, Bool.or_eq_true, decide_eq_true_iff, decide_eq_true_iff, errors_pos_iff,
    failures_pos_iff, ← exists_or]
  apply exists_congr
  intro report
  rw [← and_or_left, FileReport.Troubled, ← or_assoc, or_comm]

theorem exitStatus_le_two : (mk files).exitStatus ≤ 2 := by
  rw [exitStatus]
  split
  · exact Nat.le_refl 2
  · split <;> decide

theorem two_le_exitStatus_iff :
    2 ≤ (mk files).exitStatus ↔ ∃ report ∈ files, report.Aborted := by
  have aborted : (files.any fun report => report.error.isSome) = true ↔
      ∃ report ∈ files, report.Aborted := by
    simp only [List.any_eq_true, FileReport.Aborted, Option.isSome_iff_ne_none]
  rw [← aborted, exitStatus]
  dsimp only
  split
  · rename_i failed
    simp only [failed, Nat.le_refl]
  · rename_i complete
    simp only [complete]
    split <;> decide

/-- Without files that could not be linted only problems matter. -/
theorem exitStatus_of_not_aborted (complete : ¬ ∃ report ∈ files, report.Aborted) :
    (mk files).exitStatus = if (mk files).hasProblems then 1 else 0 := by
  rw [← two_le_exitStatus_iff, exitStatus] at complete
  rw [exitStatus]
  split
  · rename_i failed
    rw [if_pos failed] at complete
    exact absurd (Nat.le_refl 2) complete
  · rfl

/-- A file that could not be linted is a problem, too. -/
theorem one_le_exitStatus_iff :
    1 ≤ (mk files).exitStatus ↔ ∃ report ∈ files, report.Aborted ∨ report.Troubled := by
  by_cases failed : ∃ report ∈ files, report.Aborted
  · have status := (two_le_exitStatus_iff files).mpr failed
    obtain ⟨report, member, aborted⟩ := failed
    exact iff_of_true (by omega) ⟨report, member, .inl aborted⟩
  · rw [exitStatus_of_not_aborted files failed, ← hasProblems_iff]
    cases (mk files).hasProblems <;> decide

/-- The more serious status wins when lists of reports are put together. -/
theorem exitStatus_append :
    (mk (files ++ others)).exitStatus = max (mk files).exitStatus (mk others).exitStatus := by
  have two := two_le_exitStatus_iff (files ++ others)
  have one := one_le_exitStatus_iff (files ++ others)
  simp only [List.mem_append, or_and_right, exists_or] at two one
  rw [← two_le_exitStatus_iff, ← two_le_exitStatus_iff] at two
  rw [← one_le_exitStatus_iff, ← one_le_exitStatus_iff] at one
  have whole := exitStatus_le_two (files ++ others)
  have left := exitStatus_le_two files
  have right := exitStatus_le_two others
  omega

theorem exitStatus_eq_two_iff :
    (mk files).exitStatus = 2 ↔ ∃ report ∈ files, report.Aborted := by
  have most := exitStatus_le_two files
  rw [← two_le_exitStatus_iff]
  omega

theorem exitStatus_eq_one_iff :
    (mk files).exitStatus = 1 ↔
      (∀ report ∈ files, ¬ report.Aborted) ∧ ∃ report ∈ files, report.Troubled := by
  have between : (mk files).exitStatus = 1 ↔
      ¬ 2 ≤ (mk files).exitStatus ∧ 1 ≤ (mk files).exitStatus := by omega
  rw [between, two_le_exitStatus_iff, one_le_exitStatus_iff, not_exists]
  simp only [not_and]
  apply and_congr_right
  intro complete
  apply exists_congr
  intro report
  apply and_congr_right
  intro member
  exact or_iff_right (complete report member)

theorem exitStatus_eq_zero_iff :
    (mk files).exitStatus = 0 ↔ ∀ report ∈ files, ¬ report.Aborted ∧ ¬ report.Troubled := by
  rw [← Nat.lt_one_iff, ← Nat.not_le, one_le_exitStatus_iff]
  simp only [not_exists, not_and, not_or]

end LintResult

/-- The reports say the same, apart from the name of the file and the words of its error. -/
structure FileReport.SameFindings (report other : FileReport) : Prop where
  diagnostics : report.diagnostics = other.diagnostics
  failures : report.failures = other.failures
  failed : report.error.isSome = other.error.isSome

theorem FileReport.SameFindings.ofFile {report other : FileReport}
    (same : report.SameFindings other) : Summary.ofFile report = Summary.ofFile other := by
  have errors : report.error.toList.length = other.error.toList.length := by
    rw [Option.length_toList, Option.length_toList, same.failed]
  rw [Summary.ofFile, Summary.ofFile, same.diagnostics, same.failures, errors]

/-- What a run counts does not hang on names and on the words of errors. -/
theorem LintResult.summary_of_sameFindings {result other : LintResult}
    (same : List.Forall₂ FileReport.SameFindings result.files other.files) :
    result.summary = other.summary := by
  rw [LintResult.summary, LintResult.summary]
  generalize result.files = files, other.files = files' at same ⊢
  induction same with
  | nil => rfl
  | cons first _ inductionHypothesis =>
      rw [List.foldr_cons, List.foldr_cons, inductionHypothesis, first.ofFile]

theorem LintResult.exitStatus_of_sameFindings {result other : LintResult}
    (same : List.Forall₂ FileReport.SameFindings result.files other.files) :
    result.exitStatus = other.exitStatus := by
  have failed : result.files.any (fun report => report.error.isSome) =
      other.files.any fun report => report.error.isSome := by
    generalize result.files = files, other.files = files' at same ⊢
    induction same with
    | nil => rfl
    | cons first _ inductionHypothesis =>
        rw [List.any_cons, List.any_cons, inductionHypothesis, first.failed]
  rw [LintResult.exitStatus, LintResult.exitStatus, failed, LintResult.hasProblems,
    LintResult.hasProblems, summary_of_sameFindings same]

end SheetLint
