/-
This file shows that a result can be told from its JSON form: the printed text is read as the value
that was printed, and the value gives the result back.
-/

import Mathlib.Algebra.Group.Nat.Defs
import SheetLint.Proofs.Json.Indenting
import SheetLint.Rendering

namespace SheetLint

/-- The places and the counts of the result are numbers of 64 bits. -/
structure LintResult.FitsWords (result : LintResult) : Prop where
  places : ∀ report ∈ result.files, ∀ diagnostic ∈ report.diagnostics,
    diagnostic.line < 2 ^ 64 ∧ diagnostic.column < 2 ^ 64
  errors : result.summary.errors < 2 ^ 64
  warnings : result.summary.warnings < 2 ^ 64
  failures : result.summary.failures < 2 ^ 64
  files : result.summary.files < 2 ^ 64

namespace Rendering

open SheetLint.Json

/-- This is the value of a key. -/
def field? (key : String) : Value → Option Value
  | .mapping entries => entries.lookup key
  | _ => none

def countOf? : Value → Option Nat
  | .number (.whole (.ofNat number)) => some number
  | _ => none

def textOf? : Value → Option String
  | .text text => some text
  | _ => none

def itemsOf? {Item : Type} (itemOf? : Value → Option Item) : Value → Option (List Item)
  | .sequence items => items.mapM itemOf?
  | _ => none

def diagnosticOf? (value : Value) : Option Diagnostic := do
  let line ← (field? "line" value).bind countOf?
  let column ← (field? "col" value).bind countOf?
  let severity ← (field? "error_type" value).bind textOf?
  let rule ← (field? "code" value).bind textOf?
  let message ← (field? "message" value).bind textOf?
  return ⟨line, column, severity, rule, message⟩

/-- This is the report that a value stands for. Without the key there is no error. -/
def fileOf? (value : Value) : Option FileReport := do
  let file ← (field? "file" value).bind textOf?
  let diagnostics ← (field? "diagnostics" value).bind (itemsOf? diagnosticOf?)
  let failures ← (field? "failures" value).bind (itemsOf? textOf?)
  match field? "error" value with
  | none => return ⟨file, diagnostics, failures, none⟩
  | some shown => return ⟨file, diagnostics, failures, some (← textOf? shown)⟩

def summaryOf? (value : Value) : Option Summary := do
  let errors ← (field? "errors" value).bind countOf?
  let warnings ← (field? "warnings" value).bind countOf?
  let failures ← (field? "failures" value).bind countOf?
  let files ← (field? "files" value).bind countOf?
  return ⟨errors, warnings, failures, files⟩

/-- This is the result that a value stands for, with the counts that it shows. -/
def resultOf? (value : Value) : Option (LintResult × Summary) := do
  let files ← (field? "files" value).bind (itemsOf? fileOf?)
  let summary ← (field? "summary" value).bind summaryOf?
  return (⟨files⟩, summary)

theorem itemsOf?_map {Item : Type} {itemOf? : Value → Option Item} {write : Item → Value}
    (recovered : ∀ item, itemOf? (write item) = some item) (items : List Item) :
    itemsOf? itemOf? (.sequence (items.map write)) = some items := by
  rw [itemsOf?]
  induction items with
  | nil => rfl
  | cons item items inductionHypothesis =>
      rw [List.map_cons, List.mapM_cons, recovered, inductionHypothesis]
      rfl

theorem textOf?_text (text : String) : textOf? (.text text) = some text := rfl

theorem diagnosticOf?_diagnosticJson (diagnostic : Diagnostic) :
    diagnosticOf? (diagnosticJson diagnostic) = some diagnostic := rfl

theorem summaryOf?_summaryJson (summary : Summary) :
    summaryOf? (summaryJson summary) = some summary := rfl

theorem field?_error_fileJson (report : FileReport) :
    field? "error" (fileJson report) = report.error.map Value.text := by
  obtain ⟨file, diagnostics, failures, error⟩ := report
  cases error <;> rfl

theorem fileOf?_fileJson (report : FileReport) : fileOf? (fileJson report) = some report := by
  have file : (field? "file" (fileJson report)).bind textOf? = some report.file := rfl
  have diagnostics : (field? "diagnostics" (fileJson report)).bind (itemsOf? diagnosticOf?) =
      some report.diagnostics := itemsOf?_map diagnosticOf?_diagnosticJson report.diagnostics
  have failures : (field? "failures" (fileJson report)).bind (itemsOf? textOf?) =
      some report.failures := itemsOf?_map textOf?_text report.failures
  rw [fileOf?, file, diagnostics, failures, field?_error_fileJson]
  obtain ⟨file, _, _, error⟩ := report
  cases error <;> rfl

/-- The value of a result gives the result and its counts back. -/
theorem resultOf?_resultJson (result : LintResult) :
    resultOf? (resultJson result) = some (result, result.summary) := by
  have files : (field? "files" (resultJson result)).bind (itemsOf? fileOf?) =
      some result.files := itemsOf?_map fileOf?_fileJson result.files
  have summary : (field? "summary" (resultJson result)).bind summaryOf? =
      some result.summary := summaryOf?_summaryJson result.summary
  rw [resultOf?, files, summary]
  rfl

theorem printable_count {depth number : Nat} (fits : number < 2 ^ 64) :
    Printable depth (count number) :=
  .whole (by rw [FitsWord]; omega)

theorem printable_diagnosticJson {depth : Nat} {diagnostic : Diagnostic}
    (line : diagnostic.line < 2 ^ 64) (column : diagnostic.column < 2 ^ 64) :
    Printable (depth + 1) (diagnosticJson diagnostic) := by
  refine .mapping fun entry member => ?_
  simp only [List.mem_cons, List.not_mem_nil, or_false] at member
  rcases member with rfl | rfl | rfl | rfl | rfl
  · exact printable_count line
  · exact printable_count column
  · exact .text _
  · exact .text _
  · exact .text _

theorem printable_fileJson {depth : Nat} {report : FileReport}
    (places : ∀ diagnostic ∈ report.diagnostics,
      diagnostic.line < 2 ^ 64 ∧ diagnostic.column < 2 ^ 64) :
    Printable (depth + 3) (fileJson report) := by
  refine .mapping fun entry member => ?_
  simp only [List.mem_append, List.mem_cons, List.not_mem_nil, or_false, List.mem_map] at member
  rcases member with (rfl | rfl | rfl) | ⟨error, -, rfl⟩
  · exact .text _
  · refine .sequence (List.forall_mem_map.mpr fun diagnostic listed => ?_)
    exact printable_diagnosticJson (places diagnostic listed).1 (places diagnostic listed).2
  · exact .sequence (List.forall_mem_map.mpr fun failure _ => .text failure)
  · exact .text _

theorem printable_summaryJson {depth : Nat} {result : LintResult} (fits : result.FitsWords) :
    Printable (depth + 1) (summaryJson result.summary) := by
  refine .mapping fun entry member => ?_
  simp only [List.mem_cons, List.not_mem_nil, or_false] at member
  rcases member with rfl | rfl | rfl | rfl
  · exact printable_count fits.errors
  · exact printable_count fits.warnings
  · exact printable_count fits.failures
  · exact printable_count fits.files

/-- A printed result opens at most five brackets at once. -/
theorem printable_resultJson {depth : Nat} {result : LintResult} (fits : result.FitsWords) :
    Printable (depth + 5) (resultJson result) := by
  refine .mapping fun entry member => ?_
  simp only [List.mem_cons, List.not_mem_nil, or_false] at member
  rcases member with rfl | rfl
  · refine .sequence (List.forall_mem_map.mpr fun report listed => ?_)
    exact printable_fileJson (fits.places report listed)
  · exact printable_summaryJson fits

theorem unrepeated_count (number : Nat) : Unrepeated (count number) :=
  .number _

theorem unrepeated_diagnosticJson (diagnostic : Diagnostic) :
    Unrepeated (diagnosticJson diagnostic) := by
  refine .mapping (by simp [Distinct]) ?_
  simp [unrepeated_count, Unrepeated.text]

theorem unrepeated_fileJson (report : FileReport) : Unrepeated (fileJson report) := by
  refine .mapping ?_ ?_
  · cases error : report.error <;> simp [Distinct]
  · simp only [List.forall_mem_append, List.forall_mem_cons, List.forall_mem_map]
    refine ⟨⟨.text _, ?_, ?_, by simp⟩, fun error _ => .text error⟩
    · exact .sequence (List.forall_mem_map.mpr fun diagnostic _ =>
        unrepeated_diagnosticJson diagnostic)
    · exact .sequence (List.forall_mem_map.mpr fun failure _ => .text failure)

theorem unrepeated_summaryJson (summary : Summary) : Unrepeated (summaryJson summary) := by
  refine .mapping (by simp [Distinct]) ?_
  simp [unrepeated_count]

theorem unrepeated_resultJson (result : LintResult) : Unrepeated (resultJson result) := by
  refine .mapping (by simp [Distinct]) ?_
  simp only [List.forall_mem_cons, List.not_mem_nil, false_imp_iff, implies_true, and_true]
  refine ⟨?_, unrepeated_summaryJson _⟩
  exact .sequence (List.forall_mem_map.mpr fun report _ => unrepeated_fileJson report)

end Rendering

namespace LintResult

open SheetLint.Json SheetLint.Rendering

theorem toList_render_json (result : LintResult) (colourless : Bool) :
    (result.render .json colourless).toList = pretty 0 (resultJson result) ++ ['\n'] :=
  String.toList_ofList

/-- The JSON form of a result is one document, with colours on or off. It is read as the value of
the result, and that gives the result and its counts back; a report has the key of an error exactly
when it has an error. So different results are never printed alike. -/
theorem render_json_recovered (result : LintResult) (fits : result.FitsWords) :
    let text := fun colourless => result.render (Mode.ofName "json") colourless
    let value := resultJson result
    (∀ colourless, text colourless = text true ∧ Document value (text colourless).toList ∧
      Json.read (text colourless).toList = .ok value) ∧
    resultOf? value = some (result, result.summary) ∧
    (∃ entries, field? "files" value = some (.sequence entries) ∧
      List.Forall₂ (fun entry report => (field? "error" entry).isSome ↔ report.error.isSome)
        entries result.files) ∧
    (∀ other : LintResult, other.FitsWords → ∀ colourless colourless',
      other.render (Mode.ofName "json") colourless = text colourless' → other = result) := by
  intro text value
  have read {result : LintResult} (fits : result.FitsWords) (colourless : Bool) :
      Document (resultJson result) (result.render .json colourless).toList ∧
        Json.read (result.render .json colourless).toList = .ok (resultJson result) := by
    have document := document_pretty (@printable_resultJson 122 result fits)
    rw [toList_render_json]
    exact ⟨document, read_of_document document (unrepeated_resultJson result)⟩
  refine ⟨fun colourless => ⟨rfl, read fits colourless⟩, resultOf?_resultJson result, ?_, ?_⟩
  · refine ⟨_, rfl, ?_⟩
    rw [List.forall₂_map_left_iff, List.forall₂_same]
    intro report _
    rw [field?_error_fileJson, Option.isSome_map]
  · intro other fits' colourless colourless' same
    have here := (read fits colourless').2
    have there := (read fits' colourless).2
    change other.render .json colourless = result.render .json colourless' at same
    rw [same, here, Except.ok.injEq] at there
    have recovered := resultOf?_resultJson other
    rw [← there, resultOf?_resultJson result, Option.some.injEq, Prod.mk.injEq] at recovered
    exact recovered.1.symm

/-- A report with an error without text, with characters that have to be escaped and with the
largest place is told from one that has no error. -/
theorem render_json_recovered_of_escapes :
    let report : FileReport := ⟨"a \"b\"\\.css",
      [⟨2 ^ 63 - 1, 0, "error", "rule\t\u0001", "line\nline\u2028é"⟩], ["\u007f"], some ""⟩
    let result : LintResult := ⟨[report, ⟨"", [], [], none⟩]⟩
    let other : LintResult := ⟨[{ report with error := none }, ⟨"", [], [], none⟩]⟩
    result.FitsWords ∧ other.FitsWords ∧
      Json.read (result.render (Mode.ofName "json") false).toList = .ok (resultJson result) ∧
      resultOf? (resultJson result) = some (result, ⟨1, 0, 2, 2⟩) ∧
      other.render (Mode.ofName "json") true ≠ result.render (Mode.ofName "json") false := by
  intro report result other
  have fits : result.FitsWords := ⟨by decide, by decide, by decide, by decide, by decide⟩
  have fits' : other.FitsWords := ⟨by decide, by decide, by decide, by decide, by decide⟩
  obtain ⟨read, recovered, -, different⟩ := render_json_recovered result fits
  refine ⟨fits, fits', (read false).2.2, recovered, fun same => ?_⟩
  exact absurd (different other fits' true false same) (by decide)

end LintResult

end SheetLint
