/-
This file shows what a printed report is made of.
-/

import SheetLint.Proofs.Json.Occurring
import SheetLint.Proofs.Report.Conformance
import SheetLint.Report.Writer

namespace SheetLint.Report

open SheetLint.Json
open SheetLint.Report.Schema

/-- These are the strings that the fields of a warning hold. -/
def warningTexts (warning : Warning) : List String :=
  [warning.severity, warning.rule, warning.text]

/-- These are the strings that the fields of a report hold. -/
def texts (report : Report) : List String :=
  report.invalidOptions.map Feedback.text ++ report.deprecations.map Feedback.text ++
    report.warnings.flatMap warningTexts

theorem printable_coordinate {depth : Nat} (coordinate : Int64) :
    Printable depth (.number (.whole coordinate.toInt)) := by
  have lower := coordinate.le_toInt
  have upper := coordinate.toInt_lt
  exact .whole ⟨lower, by omega⟩

theorem printable_feedback {depth : Nat} (feedback : Feedback) :
    Printable (depth + 1) feedback.toJson := by
  refine .mapping fun entry member => ?_
  rw [List.mem_singleton.mp member]
  exact .text feedback.text

theorem printable_warning {depth : Nat} (warning : Warning) :
    Printable (depth + 1) warning.toJson := by
  refine .mapping fun entry member => ?_
  simp only [List.mem_cons, List.not_mem_nil, or_false] at member
  rcases member with equal | equal | equal | equal | equal
  · rw [equal]; exact printable_coordinate warning.line
  · rw [equal]; exact printable_coordinate warning.column
  · rw [equal]; exact .text warning.severity
  · rw [equal]; exact .text warning.rule
  · rw [equal]; exact .text warning.text

/-- A printed report opens at most four brackets at once. -/
theorem printable_toJson {depth : Nat} (report : Report) :
    Printable (depth + 3) report.toJson := by
  refine .mapping fun entry member => ?_
  simp only [List.mem_cons, List.not_mem_nil, or_false] at member
  rcases member with equal | equal | equal
  · rw [equal]
    exact .sequence (List.forall_mem_map.mpr fun feedback _ => printable_feedback feedback)
  · rw [equal]
    exact .sequence (List.forall_mem_map.mpr fun feedback _ => printable_feedback feedback)
  · rw [equal]
    exact .sequence (List.forall_mem_map.mpr fun warning _ => printable_warning warning)

theorem listOf_map {Item : Type} {fits : Value → Item → Prop} {write : Item → Value}
    (written : ∀ item, fits (write item) item) (items : List Item) :
    ListOf fits (.sequence (items.map write)) items := by
  refine ⟨_, rfl, ?_⟩
  rw [List.forall₂_map_left_iff, List.forall₂_same]
  exact fun item _ => written item

theorem feedbackFits_toJson (feedback : Feedback) : FeedbackFits feedback.toJson feedback :=
  ⟨isRecord_mapping 1 _, rfl⟩

theorem warningFits_toJson (warning : Warning) : WarningFits warning.toJson warning :=
  ⟨isRecord_mapping 5 _, rfl, rfl, rfl, rfl, rfl⟩

/-- A printed report conforms to the schema as the report that it is. -/
theorem reportFits_toJson (report : Report) : ReportFits report.toJson report :=
  ⟨isRecord_mapping 3 _, listOf_map feedbackFits_toJson report.invalidOptions,
    listOf_map feedbackFits_toJson report.deprecations,
    listOf_map warningFits_toJson report.warnings⟩

variable {condition : String → Prop}

theorem holds_feedback_iff (noKey : ¬ condition "text") (feedback : Feedback) :
    Holds condition feedback.toJson ↔ condition feedback.text := by
  simp [Feedback.toJson, holds_mapping_iff, holds_text_iff, noKey]

theorem holds_warning_iff
    (noKey : ∀ key ∈ ["line", "column", "severity", "rule", "text"], ¬ condition key)
    (warning : Warning) :
    Holds condition warning.toJson ↔ ∃ text ∈ warningTexts warning, condition text := by
  simp only [List.forall_mem_cons, List.not_mem_nil, false_imp_iff, implies_true, and_true] at noKey
  obtain ⟨noLine, noColumn, noSeverity, noRule, noText⟩ := noKey
  simp [Warning.toJson, holds_mapping_iff, holds_text_iff, not_holds_number, warningTexts, noLine,
    noColumn, noSeverity, noRule, noText]

/-- These are the keys of printed reports. -/
def keys : List String :=
  ["invalidOptionWarnings", "deprecations", "warnings", "line", "column", "severity", "rule",
   "text"]

/-- The strings of a printed report are its keys and the strings of its fields. -/
theorem holds_toJson_iff (noKey : ∀ key ∈ keys, ¬ condition key) (report : Report) :
    Holds condition report.toJson ↔ ∃ text ∈ report.texts, condition text := by
  have feedback (feedback : Feedback) :=
    holds_feedback_iff (noKey "text" (by decide)) feedback
  have warning (warning : Warning) := holds_warning_iff
    (fun key member => noKey key (List.mem_of_mem_drop (i := 3) member)) warning
  have fields : Holds condition report.toJson ↔
      (∃ feedback ∈ report.invalidOptions, condition feedback.text) ∨
        (∃ feedback ∈ report.deprecations, condition feedback.text) ∨
        ∃ warning ∈ report.warnings, ∃ text ∈ warningTexts warning, condition text := by
    simp [Report.toJson, holds_mapping_iff, holds_sequence_iff, feedback, warning,
      noKey "invalidOptionWarnings" (by decide), noKey "deprecations" (by decide),
      noKey "warnings" (by decide)]
  rw [fields]
  simp only [texts, List.mem_append, List.mem_map, List.mem_flatMap]
  grind

end SheetLint.Report
