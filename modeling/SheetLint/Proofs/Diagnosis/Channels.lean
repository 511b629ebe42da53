/-
This file shows what an output says through which channel: the notes for the host, the lines of the
log, and the diagnostics. A result has problems when one of them tells of some.
-/

import SheetLint.LintRun
import SheetLint.Proofs.Diagnosis.Session
import SheetLint.Proofs.LintResult.Totals
import SheetLint.Proofs.Outcome.Acceptance

namespace SheetLint

namespace Diagnosis

/-- These are the notes on the feedback in a report. There is one for each kind of which there is
some, and it holds all texts of that kind; invalid options come first. -/
structure NotesOn (report : Report) (notes : List Failure) : Prop where
  ordered : notes.Sublist [.invalidOptions (report.invalidOptions.map Feedback.text),
    .deprecations (report.deprecations.map Feedback.text)]
  invalidOptions : .invalidOptions (report.invalidOptions.map Feedback.text) ∈ notes ↔
    report.invalidOptions ≠ []
  deprecations : .deprecations (report.deprecations.map Feedback.text) ∈ notes ↔
    report.deprecations ≠ []

theorem feedbackNote_sublist (note : List String → Failure) (feedback : List Feedback) :
    (feedbackNote note feedback).Sublist [note (feedback.map Feedback.text)] := by
  rw [feedbackNote]
  split
  · exact List.nil_sublist _
  · exact List.Sublist.refl _

theorem mem_feedbackNote_iff (note : List String → Failure) (feedback : List Feedback)
    (failure : Failure) :
    failure ∈ feedbackNote note feedback ↔
      feedback ≠ [] ∧ failure = note (feedback.map Feedback.text) := by
  cases feedback <;> simp [feedbackNote]

theorem notesOn_failures (offset : Nat) (report : Report) :
    NotesOn report (ofOutcome offset (.parsed report)).failures where
  ordered := List.Sublist.append (feedbackNote_sublist _ _) (feedbackNote_sublist _ _)
  invalidOptions := by simp [ofOutcome, mem_feedbackNote_iff]
  deprecations := by simp [ofOutcome, mem_feedbackNote_iff]

theorem NotesOn.ne_nil_iff {report : Report} {notes : List Failure}
    (noted : NotesOn report notes) :
    notes ≠ [] ↔ report.invalidOptions ≠ [] ∨ report.deprecations ≠ [] := by
  rw [← noted.invalidOptions, ← noted.deprecations]
  constructor
  · intro some
    obtain ⟨note, member⟩ := List.exists_mem_of_ne_nil notes some
    have either := noted.ordered.subset member
    rw [List.mem_cons, List.mem_singleton] at either
    rcases either with rfl | rfl
    · exact .inl member
    · exact .inr member
  · intro member
    exact member.elim List.ne_nil_of_mem List.ne_nil_of_mem

/-- A sink that keeps each note as a text ends up with the texts of all notes. -/
theorem notify_texts (diagnosis : Diagnosis) :
    diagnosis.notify (fun texts failure => texts ++ [failure.message]) [] =
      diagnosis.failures.map Failure.message := by
  rw [notify, List.foldl_append_eq_append, List.nil_append, ← List.flatMap_def,
    ← List.map_eq_flatMap]

/-- An output that was just begun is drained of all its diagnostics. -/
theorem drain_started (session : Session) (output : String) :
    ((session.step (.start output)).2.step (.drain session.started.length)).1 =
      .drained ((drawings session.offset output).map Prod.fst)
        ((drawings session.offset output).flatMap Prod.snd) := by
  have held := Session.holds_step_start session output
  have drained := (Session.step_drain_of_holds held).1
  rwa [Session.offset_step] at drained

end Diagnosis

/-- There is no feedback in the report and no warning of the highest severity. -/
structure Report.Harmless (report : Report) : Prop where
  invalidOptions : report.invalidOptions = []
  deprecations : report.deprecations = []
  warnings : ∀ warning ∈ report.warnings, warning.severity ≠ "error"

theorem Report.not_harmless_iff (report : Report) :
    ¬ report.Harmless ↔ report.invalidOptions ≠ [] ∨ report.deprecations ≠ [] ∨
      ∃ warning ∈ report.warnings, warning.severity = "error" := by
  have parts : report.Harmless ↔ report.invalidOptions = [] ∧ report.deprecations = [] ∧
      ∀ warning ∈ report.warnings, warning.severity ≠ "error" :=
    ⟨fun harmless => ⟨harmless.1, harmless.2, harmless.3⟩, fun parts => ⟨parts.1, parts.2.1,
      parts.2.2⟩⟩
  rw [parts, not_and_or, not_and_or]
  simp

theorem Outcome.classify_of_blank {text : String} (silent : ¬ ∃ line, CrashLine text.toList line)
    (blank : ∀ character ∈ text.toList, Text.isBlank character = true) :
    classify text = .empty := by
  rw [classify, (crashMessage?_eq_none_iff text.toList).mpr silent]
  exact if_pos (List.all_eq_true.mpr blank)

namespace LintResult

open SheetLint.Diagnosis

/-- A saved output has problems when there is a note on it or a warning of the highest severity. -/
theorem hasProblems_ofOutput (label output : String) (offset : Nat) :
    (ofOutput label output offset).hasProblems = true ↔
      (diagnose offset output).failures ≠ [] ∨
        ∃ warning ∈ (diagnose offset output).pending.warnings, warning.severity = "error" := by
  rw [ofOutput, hasProblems_iff]
  simp only [List.mem_singleton, exists_eq_left, FileReport.Aborted, FileReport.Troubled,
    notify_texts, Pending.drain, List.map_map, List.mem_map, exists_exists_and_eq_and, ne_eq,
    List.map_eq_nil_iff, not_true_eq_false, false_or]
  exact or_comm

/-- Crashes and malformed outputs are problems; a report has some when it is not harmless. -/
theorem hasProblems_ofOutput_iff (label output : String) (offset : Nat) :
    (ofOutput label output offset).hasProblems = true ↔
      (∃ message, Outcome.classify output = .crashed message) ∨
        (∃ defect, Outcome.classify output = .malformed defect) ∨
        ∃ report, Outcome.classify output = .parsed report ∧ ¬ report.Harmless := by
  rw [hasProblems_ofOutput, diagnose]
  simp only [Report.not_harmless_iff]
  cases Outcome.classify output with
  | empty => simp [ofOutcome]
  | crashed message => simp [ofOutcome]
  | malformed defect => simp [ofOutcome]
  | parsed report =>
      rw [(notesOn_failures offset report).ne_nil_iff, or_assoc]
      simp [ofOutcome]

/-- A saved output has no problems exactly when it announces no crash and is blank or spells a
harmless report. -/
theorem hasProblems_ofOutput_eq_false_iff (label output : String) (offset : Nat) :
    (ofOutput label output offset).hasProblems = false ↔
      (¬ ∃ line, Outcome.CrashLine output.toList line) ∧
        ((∀ character ∈ output.toList, Text.isBlank character = true) ∨
          ∃ report, Outcome.Conforms output.toList report ∧ report.Harmless) := by
  rw [← Bool.not_eq_true, hasProblems_ofOutput_iff]
  by_cases crash : ∃ line, Outcome.CrashLine output.toList line
  · have crashed := (Outcome.exists_classify_eq_crashed_iff output).mpr crash
    exact iff_of_false (not_not_intro (.inl crashed)) fun silent => silent.1 crash
  · by_cases blank : ∀ character ∈ output.toList, Text.isBlank character = true
    · rw [Outcome.classify_of_blank crash blank]
      exact iff_of_true (by simp) ⟨crash, .inl blank⟩
    · have substantial : Outcome.Substantial output.toList := ⟨crash, by simpa using blank⟩
      simp only [Outcome.classify_of_substantial substantial, ← Outcome.readReport_eq_ok_iff]
      cases Outcome.readReport output.toList with
      | ok report => simp [crash, blank]
      | error defect => simp [blank]

end LintResult

namespace Diagnosis

/-- Each kind of outcome speaks through its own channels, whatever else has begun: a crash and a
malformed output give one note, which is also logged, and feedback is logged before anything is
drawn and noted once for each kind; only a report gives diagnostics, one for each warning. A saved
output has problems unless it is blank or a harmless report. -/
theorem channels_of_outcome (offset : Nat) (started : List Pending) (label output : String) :
    let begun := (Session.mk offset started).step (.start output)
    let drained := (begun.2.step (.drain started.length)).1
    let result := LintResult.ofOutput label output offset
    (match Outcome.classify output with
      | .empty => begun.1 = .started [] 0 [] ∧ drained = .drained [] []
      | .crashed message =>
          begun.1 = .started [.crashed message] 0 ["Stylelint crashed: " ++ message] ∧
            drained = .drained [] []
      | .malformed defect =>
          begun.1 = .started [.malformed defect] 0 [defect.message] ∧ drained = .drained [] []
      | .parsed report =>
          ∃ notes, NotesOn report notes ∧
            begun.1 = .started notes report.warnings.length
              (report.invalidOptions.map Feedback.text ++
                report.deprecations.map Feedback.text) ∧
            List.Forall₂ (fun warning diagnostic => diagnostic = (warning.diagnose offset).1)
              report.warnings drained.items) ∧
      (result.hasProblems = true ↔
        (∃ message, Outcome.classify output = .crashed message) ∨
          (∃ defect, Outcome.classify output = .malformed defect) ∨
          ∃ report, Outcome.classify output = .parsed report ∧
            (report.invalidOptions ≠ [] ∨ report.deprecations ≠ [] ∨
              ∃ warning ∈ report.warnings, warning.severity = "error")) ∧
      (result.hasProblems = false ↔
        (¬ ∃ line, Outcome.CrashLine output.toList line) ∧
          ((∀ character ∈ output.toList, Text.isBlank character = true) ∨
            ∃ report, Outcome.Conforms output.toList report ∧ report.Harmless)) := by
  intro begun drained result
  have opening : begun.1 = .started (diagnose offset output).failures
      (diagnose offset output).pending.length (diagnose offset output).logs := rfl
  have rest : drained = .drained ((drawings offset output).map Prod.fst)
      ((drawings offset output).flatMap Prod.snd) := drain_started (Session.mk offset started) output
  refine ⟨?_, ?_, LintResult.hasProblems_ofOutput_eq_false_iff label output offset⟩
  · rw [opening, rest, drawings, diagnose]
    cases Outcome.classify output with
    | empty => exact ⟨rfl, rfl⟩
    | crashed message => exact ⟨rfl, rfl⟩
    | malformed defect => exact ⟨rfl, rfl⟩
    | parsed report =>
        refine ⟨_, notesOn_failures offset report, rfl, ?_⟩
        simp [ofOutcome, Answer.items, List.forall₂_map_right_iff, List.forall₂_same]
  · simp only [← Report.not_harmless_iff]
    exact LintResult.hasProblems_ofOutput_iff label output offset

end Diagnosis

end SheetLint
