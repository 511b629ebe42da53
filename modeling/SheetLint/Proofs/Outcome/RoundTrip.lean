/-
This file shows when a printed report is read back and when it is taken for a crash.
-/

import SheetLint.Diagnosis
import SheetLint.Proofs.Outcome.Acceptance
import SheetLint.Proofs.Report.Printing

namespace SheetLint.Outcome

open SheetLint.Json
open SheetLint.Text

/-- The crash mark is written as it is inside a string. -/
theorem stringMark_crashMark : StringMark 'E' ['r', 'r', 'o', 'r', ':', ' '] := by
  have literal : (crashMark.all fun character => escapeCharacter character == [character]) = true :=
    by decide
  refine ⟨fun character member => ?_, by decide⟩
  exact beq_iff_eq.mp (List.all_eq_true.mp literal character member)

theorem printable_report (report : Report) :
    Printable depthLimit (.sequence [report.toJson]) :=
  .sequence (List.forall_mem_singleton.mpr (Report.printable_toJson report))

theorem toList_write (report : Report) :
    report.write.toList = compact (.sequence [report.toJson]) :=
  String.toList_ofList

/-- A text of one line announces a crash when it holds the mark. -/
theorem crashLine_iff_of_single {text : List Char} (single : ∀ character ∈ text, character ≠ '\n') :
    (∃ line, CrashLine text line) ↔ crashMark <:+: text := by
  have first := firstLine_eq_self single
  have second : secondLine? text = none := by
    rw [secondLine?, laterLines?, List.dropWhile_eq_nil_iff.mpr]
    · rfl
    · intro character member
      simpa using single character member
  constructor
  · intro given
    rcases given with ⟨line, ⟨_, marked⟩ | ⟨_, isSecond, _⟩⟩
    · rwa [first] at marked
    · rw [second] at isSecond
      exact absurd isSecond (by simp)
  · intro marked
    exact ⟨firstLine text, Or.inl ⟨rfl, by rwa [first]⟩⟩

/-- A printed report announces a crash exactly when one of its strings holds the mark. -/
theorem crashLine_write_iff (report : Report) :
    (∃ line, CrashLine report.write.toList line) ↔
      ∃ text ∈ report.texts, crashMark <:+: text.toList := by
  have single : ∀ character ∈ report.write.toList, character ≠ '\n' := by
    rw [toList_write]
    intro character member equal
    exact lineFeed_not_mem_compact (printable_report report) (equal ▸ member)
  have noKey : ∀ key ∈ Report.keys, ¬ crashMark <:+: key.toList := by decide +kernel
  rw [crashLine_iff_of_single single, toList_write, crashMark,
    stringMark_crashMark.infix_compact_iff (printable_report report), holds_sequence_iff]
  simp only [List.mem_singleton, exists_eq_left]
  exact Report.holds_toJson_iff noKey report

theorem conforms_write (report : Report) : Conforms report.write.toList report := by
  rw [toList_write]
  exact ⟨report.toJson, [], document_compact (printable_report report),
    Report.reportFits_toJson report⟩

theorem ink_write (report : Report) :
    ∃ character ∈ report.write.toList, isBlank character = false := by
  refine ⟨'[', ?_, by decide +kernel⟩
  rw [toList_write, compact_sequence]
  exact List.mem_cons_self

theorem classify_write_eq_crashed_iff (report : Report) :
    (∃ message, classify report.write = .crashed message) ↔
      ∃ text ∈ report.texts, crashMark <:+: text.toList :=
  (exists_classify_eq_crashed_iff report.write).trans (crashLine_write_iff report)

/-- A printed report is read back exactly when none of its strings holds the crash mark; otherwise
the output is a crash, which leaves one note and no diagnostics. -/
theorem classify_write_iff (report : Report) :
    (classify report.write = .parsed report ↔
      ∀ text ∈ report.texts, ¬ crashMark <:+: text.toList) ∧
      ((∃ text ∈ report.texts, crashMark <:+: text.toList) ↔
        ∃ message, classify report.write = .crashed message ∧
          ∀ offset, (diagnose offset report.write).failures = [.crashed message] ∧
            (diagnose offset report.write).pending.drain.1 = []) := by
  constructor
  · constructor
    · intro parsed text member marked
      obtain ⟨message, crashed⟩ :=
        (classify_write_eq_crashed_iff report).mpr ⟨text, member, marked⟩
      rw [parsed] at crashed
      exact absurd crashed (by simp)
    · intro unmarked
      have silent : ¬ ∃ line, CrashLine report.write.toList line := by
        rw [crashLine_write_iff]
        intro given
        obtain ⟨text, member, marked⟩ := given
        exact unmarked text member marked
      exact (classify_eq_parsed_iff ⟨silent, ink_write report⟩ report).mpr (conforms_write report)
  · constructor
    · intro marked
      obtain ⟨message, crashed⟩ := (classify_write_eq_crashed_iff report).mpr marked
      refine ⟨message, crashed, fun offset => ?_⟩
      rw [diagnose, crashed]
      exact ⟨rfl, rfl⟩
    · intro given
      obtain ⟨message, crashed, _⟩ := given
      exact (classify_write_eq_crashed_iff report).mp ⟨message, crashed⟩

end SheetLint.Outcome
