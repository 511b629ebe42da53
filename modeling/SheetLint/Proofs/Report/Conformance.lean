/-
This file shows that a report is decoded exactly from the values that conform to its schema.
-/

import SheetLint.Proofs.Report.Decoding

namespace SheetLint.Report.Schema

open SheetLint.Json

/-- The value is a feedback with this text. -/
structure FeedbackFits (value : Value) (feedback : Feedback) : Prop where
  record : IsRecord 1 value
  text : field? 0 "text" value = some (.text feedback.text)

/-- The value is a warning with these five fields. -/
structure WarningFits (value : Value) (warning : Warning) : Prop where
  record : IsRecord 5 value
  line : field? 0 "line" value = some (.number (.whole warning.line.toInt))
  column : field? 1 "column" value = some (.number (.whole warning.column.toInt))
  severity : field? 2 "severity" value = some (.text warning.severity)
  rule : field? 3 "rule" value = some (.text warning.rule)
  text : field? 4 "text" value = some (.text warning.text)

/-- The value is a report with exactly these feedbacks and warnings, in order. -/
structure ReportFits (value : Value) (report : Report) : Prop where
  record : IsRecord 3 value
  invalidOptions :
    ListOrAbsent FeedbackFits (field? 0 "invalidOptionWarnings" value) report.invalidOptions
  deprecations : ListOrAbsent FeedbackFits (field? 1 "deprecations" value) report.deprecations
  warnings : ListOrAbsent WarningFits (field? 2 "warnings" value) report.warnings

/-- Every object is a record; a list is one as long as it is not too long. -/
theorem isRecord_mapping (count : Nat) (entries : List (String × Value)) :
    IsRecord count (.mapping entries) :=
  Or.inl ⟨entries, rfl⟩

theorem isRecord_sequence_iff (count : Nat) (items : List Value) :
    IsRecord count (.sequence items) ↔ items.length ≤ count := by
  constructor
  · intro given
    rcases given with ⟨entries, equal⟩ | ⟨others, equal, few⟩
    · exact absurd equal (by simp)
    · rw [Value.sequence.inj equal]
      exact few
  · exact fun few => Or.inr ⟨items, rfl, few⟩

theorem checkFeedbackEntry_of_required {entries : List (String × Value)}
    (distinct : Distinct entries) {text : String}
    (found : required decodeText "text" entries = .ok text) :
    checkEntries checkFeedbackEntry entries = .ok () := by
  refine checkEntries_eq_ok_iff.mpr fun entry member => ?_
  rw [checkFeedbackEntry]
  split
  · next isKey => exact check_of_required distinct found member isKey
  · rfl

theorem decodes_feedback : Decodes decodeFeedback FeedbackFits := by
  intro raw feedback
  cases raw with
  | mapping entries =>
      have distinct := distinct_settledEntries distinct_nil entries
      simp only [Value.settled, decodeFeedback, bind_eq_ok_iff, pure_eq_ok_iff,
        required_eq_ok_iff decodes_text]
      constructor
      · intro given
        obtain ⟨_, _, text, ⟨value, final, isText⟩, whole⟩ := given
        rw [← whole]
        exact ⟨isRecord_mapping 1 entries, by rw [field?, final, isText]⟩
      · intro given
        obtain ⟨_, text⟩ := given
        have found := (required_eq_ok_iff decodes_text _ _ _).mpr ⟨_, text, rfl⟩
        exact ⟨(), checkFeedbackEntry_of_required distinct found, _, ⟨_, text, rfl⟩, rfl⟩
  | sequence items =>
      simp only [Value.settled, decodeFeedback, bind_eq_ok_iff, pure_eq_ok_iff,
        fieldAt_eq_ok_iff decodes_text, refuseMore_eq_ok_iff]
      constructor
      · intro given
        obtain ⟨text, ⟨value, found, isText⟩, _, few, whole⟩ := given
        rw [← whole]
        exact ⟨(isRecord_sequence_iff 1 items).mpr few, by rw [field?, found, isText]⟩
      · intro given
        obtain ⟨record, text⟩ := given
        exact ⟨_, ⟨_, text, rfl⟩, (), (isRecord_sequence_iff 1 items).mp record, rfl⟩
  | _ =>
      constructor
      · intro found
        exact absurd found (by simp [Value.settled, decodeFeedback])
      · intro given
        obtain ⟨_, text⟩ := given
        exact absurd text (by simp [field?])

theorem checkWarningEntry_of_required {entries : List (String × Value)}
    (distinct : Distinct entries) {warning : Warning}
    (line : required decodeCoordinate "line" entries = .ok warning.line)
    (column : required decodeCoordinate "column" entries = .ok warning.column)
    (severity : required decodeText "severity" entries = .ok warning.severity)
    (rule : required decodeText "rule" entries = .ok warning.rule)
    (text : required decodeText "text" entries = .ok warning.text) :
    checkEntries checkWarningEntry entries = .ok () := by
  -- The keys are distinct by now: the entry that is checked is the one that is looked up.
  refine checkEntries_eq_ok_iff.mpr fun entry member => ?_
  rw [checkWarningEntry]
  split
  · next isKey =>
      rcases isKey with isLine | isColumn
      · exact check_of_required distinct line member isLine
      · exact check_of_required distinct column member isColumn
  · split
    · next isKey =>
        rcases isKey with isSeverity | isRule | isText
        · exact check_of_required distinct severity member isSeverity
        · exact check_of_required distinct rule member isRule
        · exact check_of_required distinct text member isText
    · rfl

theorem decodes_warning : Decodes decodeWarning WarningFits := by
  intro raw warning
  cases raw with
  | mapping entries =>
      have distinct := distinct_settledEntries distinct_nil entries
      simp only [Value.settled, decodeWarning, bind_eq_ok_iff, pure_eq_ok_iff]
      constructor
      · intro given
        obtain ⟨_, _, line, isLine, column, isColumn, severity, isSeverity, rule, isRule, text,
          isText, whole⟩ := given
        obtain ⟨_, finalLine, rfl⟩ := (required_eq_ok_iff decodes_coordinate _ _ _).mp isLine
        obtain ⟨_, finalColumn, rfl⟩ := (required_eq_ok_iff decodes_coordinate _ _ _).mp isColumn
        obtain ⟨_, finalSeverity, rfl⟩ := (required_eq_ok_iff decodes_text _ _ _).mp isSeverity
        obtain ⟨_, finalRule, rfl⟩ := (required_eq_ok_iff decodes_text _ _ _).mp isRule
        obtain ⟨_, finalText, rfl⟩ := (required_eq_ok_iff decodes_text _ _ _).mp isText
        rw [← whole]
        exact ⟨isRecord_mapping 5 entries, finalLine, finalColumn, finalSeverity, finalRule,
          finalText⟩
      · intro given
        obtain ⟨_, line, column, severity, rule, text⟩ := given
        have isLine := (required_eq_ok_iff decodes_coordinate _ _ _).mpr ⟨_, line, rfl⟩
        have isColumn := (required_eq_ok_iff decodes_coordinate _ _ _).mpr ⟨_, column, rfl⟩
        have isSeverity := (required_eq_ok_iff decodes_text _ _ _).mpr ⟨_, severity, rfl⟩
        have isRule := (required_eq_ok_iff decodes_text _ _ _).mpr ⟨_, rule, rfl⟩
        have isText := (required_eq_ok_iff decodes_text _ _ _).mpr ⟨_, text, rfl⟩
        exact ⟨(), checkWarningEntry_of_required distinct isLine isColumn isSeverity isRule isText,
          _, isLine, _, isColumn, _, isSeverity, _, isRule, _, isText, rfl⟩
  | sequence items =>
      simp only [Value.settled, decodeWarning, bind_eq_ok_iff, pure_eq_ok_iff,
        fieldAt_eq_ok_iff decodes_text, fieldAt_eq_ok_iff decodes_coordinate, refuseMore_eq_ok_iff]
      constructor
      · intro given
        obtain ⟨line, ⟨_, atLine, rfl⟩, column, ⟨_, atColumn, rfl⟩, severity, ⟨_, atSeverity,
          rfl⟩, rule, ⟨_, atRule, rfl⟩, text, ⟨_, atText, rfl⟩, _, few, whole⟩ := given
        rw [← whole]
        exact ⟨(isRecord_sequence_iff 5 items).mpr few, atLine, atColumn, atSeverity, atRule,
          atText⟩
      · intro given
        obtain ⟨record, line, column, severity, rule, text⟩ := given
        exact ⟨_, ⟨_, line, rfl⟩, _, ⟨_, column, rfl⟩, _, ⟨_, severity, rfl⟩, _, ⟨_, rule, rfl⟩, _,
          ⟨_, text, rfl⟩, (), (isRecord_sequence_iff 5 items).mp record, rfl⟩
  | _ =>
      constructor
      · intro found
        exact absurd found (by simp [Value.settled, decodeWarning])
      · intro given
        obtain ⟨_, line⟩ := given
        exact absurd line (by simp [field?])

theorem checkReportEntry_of_listOrEmpty {entries : List (String × Value)}
    (distinct : Distinct entries) {report : Report}
    (invalidOptions : listOrEmpty (decodeList decodeFeedback) "invalidOptionWarnings" entries =
      .ok report.invalidOptions)
    (deprecations : listOrEmpty (decodeList decodeFeedback) "deprecations" entries =
      .ok report.deprecations)
    (warnings : listOrEmpty (decodeList decodeWarning) "warnings" entries = .ok report.warnings) :
    checkEntries checkReportEntry entries = .ok () := by
  refine checkEntries_eq_ok_iff.mpr fun entry member => ?_
  rw [checkReportEntry]
  split
  · next isKey =>
      rcases isKey with isInvalidOptions | isDeprecations
      · exact check_of_listOrEmpty distinct invalidOptions member isInvalidOptions
      · exact check_of_listOrEmpty distinct deprecations member isDeprecations
  · split
    · next isWarnings => exact check_of_listOrEmpty distinct warnings member isWarnings
    · rfl

/-- A report is decoded exactly from the values that conform to its schema. -/
theorem decodes_report : Decodes decodeReport ReportFits := by
  intro raw report
  cases raw with
  | mapping entries =>
      have distinct := distinct_settledEntries distinct_nil entries
      simp only [Value.settled, decodeReport, bind_eq_ok_iff, pure_eq_ok_iff]
      constructor
      · intro given
        obtain ⟨_, _, invalidOptions, isInvalidOptions, deprecations, isDeprecations, warnings,
          isWarnings, whole⟩ := given
        rw [← whole]
        exact ⟨isRecord_mapping 3 entries,
          (listOrEmpty_eq_ok_iff decodes_feedback _ _ _).mp isInvalidOptions,
          (listOrEmpty_eq_ok_iff decodes_feedback _ _ _).mp isDeprecations,
          (listOrEmpty_eq_ok_iff decodes_warning _ _ _).mp isWarnings⟩
      · intro given
        obtain ⟨_, invalidOptions, deprecations, warnings⟩ := given
        have isInvalidOptions :=
          (listOrEmpty_eq_ok_iff decodes_feedback _ _ _).mpr invalidOptions
        have isDeprecations := (listOrEmpty_eq_ok_iff decodes_feedback _ _ _).mpr deprecations
        have isWarnings := (listOrEmpty_eq_ok_iff decodes_warning _ _ _).mpr warnings
        exact ⟨(), checkReportEntry_of_listOrEmpty distinct isInvalidOptions isDeprecations
          isWarnings, _, isInvalidOptions, _, isDeprecations, _, isWarnings, rfl⟩
  | sequence items =>
      simp only [Value.settled, decodeReport, bind_eq_ok_iff, pure_eq_ok_iff,
        listAt_eq_ok_iff decodes_feedback, listAt_eq_ok_iff decodes_warning, refuseMore_eq_ok_iff]
      constructor
      · intro given
        obtain ⟨_, invalidOptions, _, deprecations, _, warnings, _, few, whole⟩ := given
        rw [← whole]
        exact ⟨(isRecord_sequence_iff 3 items).mpr few, invalidOptions, deprecations, warnings⟩
      · intro given
        obtain ⟨record, invalidOptions, deprecations, warnings⟩ := given
        exact ⟨_, invalidOptions, _, deprecations, _, warnings, (),
          (isRecord_sequence_iff 3 items).mp record, rfl⟩
  | _ =>
      constructor
      · intro found
        exact absurd found (by simp [Value.settled, decodeReport])
      · intro given
        obtain ⟨record⟩ := given
        exact absurd record (by simp [IsRecord])

end SheetLint.Report.Schema
