/-
This file shows which outputs are accepted as reports and which reports they are.
-/

import SheetLint.Proofs.Json.Printing
import SheetLint.Proofs.Json.Reading
import SheetLint.Proofs.Outcome.Crash
import SheetLint.Proofs.Report.Variants

namespace SheetLint.Outcome

open SheetLint.Json
open SheetLint.Report.Schema
open SheetLint.Text

/-- The text is one list whose first item conforms to the schema as the report. -/
def Conforms (text : List Char) (report : Report) : Prop :=
  ∃ first others, Document (.sequence (first :: others)) text ∧ ReportFits first report

/-- Both texts are lists with variants of one report in front; what follows the first item is
arbitrary. -/
def Rephrased (text other : List Char) : Prop :=
  ∃ first second others more, Document (.sequence (first :: others)) text ∧
    Document (.sequence (second :: more)) other ∧ Variant .report first second

/-- The text neither announces a crash nor is it blank. -/
structure Substantial (text : List Char) : Prop where
  silent : ¬ ∃ line, CrashLine text line
  ink : ∃ character ∈ text, isBlank character = false

/-- Which report is read from a list is up to its first item. -/
theorem readReport_of_document {first : Value} {others : List Value} {text : List Char}
    (document : Document (.sequence (first :: others)) text) (report : Report) :
    readReport text = .ok report ↔ ReportFits first report := by
  have read := readList_eq_ok_iff.mpr ⟨_, document, rfl⟩
  rw [readReport, read, settledItems, ← decodes_report]
  dsimp only
  cases decodeReport first.settled with
  | ok found => simp only [Except.ok.injEq]
  | error misfit => exact iff_of_false (by simp) (by simp)

/-- A report is read exactly from the texts that conform to it. -/
theorem readReport_eq_ok_iff (text : List Char) (report : Report) :
    readReport text = .ok report ↔ Conforms text report := by
  constructor
  · intro found
    have accepted : ∃ value values, readList text = .ok (value :: values) := by
      rw [readReport] at found
      split at found
      · exact absurd found (by simp)
      · exact absurd found (by simp)
      · next value values read => exact ⟨value, values, read⟩
    obtain ⟨value, values, read⟩ := accepted
    obtain ⟨raws, document, settled⟩ := readList_eq_ok_iff.mp read
    cases raws with
    | nil => exact absurd settled (by simp [settledItems])
    | cons first others =>
        exact ⟨first, others, document, (readReport_of_document document report).mp found⟩
  · intro given
    obtain ⟨first, others, document, fits⟩ := given
    exact (readReport_of_document document report).mpr fits

/-- A substantial text is a report when one is read from it, and malformed otherwise. -/
theorem classify_of_substantial {text : String} (substantial : Substantial text.toList) :
    classify text =
      match readReport text.toList with
      | .ok report => .parsed report
      | .error defect => .malformed defect := by
  have silent := (crashMessage?_eq_none_iff text.toList).mpr substantial.silent
  have noBlank : ¬ text.toList.all isBlank = true := by
    obtain ⟨character, member, ink⟩ := substantial.ink
    rw [List.all_eq_true]
    intro blank
    rw [blank character member] at ink
    exact absurd ink (by simp)
  rw [classify, silent]
  simp only [noBlank]
  rfl

theorem classify_eq_parsed_iff {text : String} (substantial : Substantial text.toList)
    (report : Report) : classify text = .parsed report ↔ Conforms text.toList report := by
  rw [← readReport_eq_ok_iff, classify_of_substantial substantial]
  cases readReport text.toList with
  | ok found => rw [Outcome.parsed.injEq, Except.ok.injEq]
  | error defect => exact iff_of_false (by simp) (by simp)

theorem classify_eq_malformed_iff {text : String} (substantial : Substantial text.toList) :
    (∃ defect, classify text = .malformed defect) ↔ ¬ ∃ report, Conforms text.toList report := by
  simp only [← readReport_eq_ok_iff, classify_of_substantial substantial]
  cases readReport text.toList with
  | ok found => simp
  | error defect => simp

/-- Rephrased texts conform to the same reports. -/
theorem conforms_iff_of_rephrased {text other : List Char} (rephrased : Rephrased text other)
    (report : Report) : Conforms text report ↔ Conforms other report := by
  obtain ⟨first, second, others, more, document, otherDocument, variant⟩ := rephrased
  -- Through the reader no other parse of either text can matter.
  rw [← readReport_eq_ok_iff, ← readReport_eq_ok_iff, readReport_of_document document,
    readReport_of_document otherDocument]
  exact variant.same report

/-- A substantial text is a report exactly when it conforms to the schema and is malformed
otherwise; coordinates are spelled as plain integers; and rephrasing changes nothing. -/
theorem classify_parsed_iff_conforms (text : String) (substantial : Substantial text.toList) :
    (∀ report, classify text = .parsed report ↔ Conforms text.toList report) ∧
      ((∃ defect, classify text = .malformed defect) ↔
        ¬ ∃ report, Conforms text.toList report) ∧
      (∀ (literal : Literal) (coordinate : Int64),
        literal.number? = some (.whole coordinate.toInt) ↔
          literal.IsInteger coordinate.toInt) ∧
      ∀ other : String, Substantial other.toList → Rephrased text.toList other.toList →
        ∀ report, classify text = .parsed report ↔ classify other = .parsed report := by
  refine ⟨?_, ?_, ?_, ?_⟩
  · exact classify_eq_parsed_iff substantial
  · exact classify_eq_malformed_iff substantial
  · intro literal coordinate
    have lower := coordinate.le_toInt
    have upper := coordinate.toInt_lt
    rw [Literal.number?_eq_whole_iff]
    constructor
    · exact fun found => found.1
    · exact fun integer => ⟨integer, lower, by omega⟩
  · intro other otherSubstantial rephrased report
    rw [classify_eq_parsed_iff substantial, classify_eq_parsed_iff otherSubstantial,
      conforms_iff_of_rephrased rephrased]

/-- This is a list of one deprecation, which is written as a list itself. -/
def oneDeprecation : Value :=
  .sequence [.sequence [.text "old"]]

/-- Here an unknown key stands in front of the deprecation. -/
def unknownKeyFirst : Value :=
  .sequence [.mapping [("source", .null), ("deprecations", oneDeprecation)]]

/-- Here the unknown key stands behind the deprecation with another value. -/
def unknownKeyLast : Value :=
  .sequence [.mapping [("deprecations", oneDeprecation), ("source", .boolean true)], .null]

theorem printable_oneDeprecation {depth : Nat} : Printable (depth + 2) oneDeprecation :=
  .sequence (List.forall_mem_singleton.mpr
    (.sequence (List.forall_mem_singleton.mpr (.text "old"))))

theorem rephrased_unknownKey : Rephrased (compact unknownKeyFirst) (compact unknownKeyLast) := by
  have first : Printable depthLimit unknownKeyFirst :=
    .sequence (List.forall_mem_singleton.mpr (.mapping (List.forall_mem_cons.mpr
      ⟨.null, List.forall_mem_singleton.mpr printable_oneDeprecation⟩)))
  have last : Printable depthLimit unknownKeyLast :=
    .sequence (List.forall_mem_cons.mpr ⟨.mapping (List.forall_mem_cons.mpr
      ⟨printable_oneDeprecation, List.forall_mem_singleton.mpr (.boolean true)⟩),
      List.forall_mem_singleton.mpr .null⟩)
  refine ⟨_, _, _, _, document_compact first, document_compact last, ?_⟩
  exact .trans (.unknown [] [("deprecations", oneDeprecation)] rfl .null (.boolean true))
    (.swap [] [] (by decide))

/-- The unknown key may change its value and its place. -/
theorem classify_unknownKey :
    Substantial (String.ofList (compact unknownKeyFirst)).toList ∧
      classify (String.ofList (compact unknownKeyFirst)) = .parsed ⟨[], [⟨"old"⟩], []⟩ ∧
      classify (String.ofList (compact unknownKeyLast)) = .parsed ⟨[], [⟨"old"⟩], []⟩ := by
  have first : Substantial (String.ofList (compact unknownKeyFirst)).toList :=
    ⟨(crashMessage?_eq_none_iff _).mp (by decide +kernel), '[', by decide +kernel,
      by decide +kernel⟩
  have last : Substantial (String.ofList (compact unknownKeyLast)).toList :=
    ⟨(crashMessage?_eq_none_iff _).mp (by decide +kernel), '[', by decide +kernel,
      by decide +kernel⟩
  obtain ⟨_, _, _, same⟩ :=
    classify_parsed_iff_conforms (String.ofList (compact unknownKeyFirst)) first
  have rephrased : Rephrased (String.ofList (compact unknownKeyFirst)).toList
      (String.ofList (compact unknownKeyLast)).toList := by
    rw [String.toList_ofList, String.toList_ofList]
    exact rephrased_unknownKey
  have parsed : classify (String.ofList (compact unknownKeyFirst)) =
      .parsed ⟨[], [⟨"old"⟩], []⟩ := by decide +kernel
  exact ⟨first, parsed, (same _ last rephrased _).mp parsed⟩

end SheetLint.Outcome
