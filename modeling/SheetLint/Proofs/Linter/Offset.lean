/-
This file says to which text the offset of a run belongs. A saved document is looked at as it was
saved, while the linter is fed the document itself.
-/

import SheetLint.Linter
import SheetLint.Proofs.Except
import SheetLint.Proofs.StyleBlock.FirstLine

namespace SheetLint

open SheetLint.StyleBlock

namespace Invocation

/-- The process is the call carried out: it runs under the name of the program, in the directory of
the call, and is given the arguments, the variables and the input. -/
structure CarriedOut (invocation : Invocation) (host : Host) (input : Bytes)
    (execution : Execution) : Prop where
  name : execution.name = invocation.program
  arguments : execution.arguments = invocation.arguments
  directory : runDirectory host invocation.directory = .ok execution.directory
  environment : execution.environment = invocation.environment
  input : execution.input = input

variable {invocation : Invocation} {host : Host} {input : Bytes}

theorem carriedOut_of_prepare {execution : Execution}
    (prepared : invocation.prepare host input = .ok execution) :
    invocation.CarriedOut host input execution := by
  rw [prepare] at prepared
  split at prepared
  · obtain ⟨_, refused, -⟩ := bind_eq_ok_iff.mp prepared
    exact nomatch refused
  · obtain ⟨directory, runs, later⟩ := bind_eq_ok_iff.mp prepared
    obtain ⟨executable, -, made⟩ := bind_eq_ok_iff.mp later
    rw [← pure_eq_ok_iff.mp made]
    exact ⟨rfl, rfl, runs, rfl, rfl⟩

/-- A call has a text as its output when a process was started and wrote that text. -/
theorem runText_eq_ok_iff {text : String} :
    invocation.runText host input = .ok text ↔
      ∃ execution, invocation.prepare host input = .ok execution ∧
        Text.decodeUtf8 (host.execute execution).output = .ok text.toList := by
  rw [runText, run, bind_eq_ok_iff]
  simp only [bind_eq_ok_iff, mapError_eq_ok_iff, map_eq_ok_iff, pure_eq_ok_iff]
  constructor
  · rintro ⟨streams, ⟨execution, prepared, rfl⟩, characters, decoded, rfl⟩
    exact ⟨execution, prepared, by rw [String.toList_ofList, decoded]⟩
  · rintro ⟨execution, prepared, decoded⟩
    exact ⟨_, ⟨execution, prepared, rfl⟩, _, decoded, String.ofList_toList⟩

end Invocation

/-- The style block of the document is looked for in this text: in the file of a saved document,
otherwise in the document itself. -/
def Document.Scanned (document : Document) (host : Host) (text : String) : Prop :=
  match document.path with
  | some path => host.readText path = .ok text
  | none => document.text = text

/-- There is no more than one text in which the style block of a document is looked for. -/
theorem Document.Scanned.unique {document : Document} {host : Host} {text other : String}
    (first : document.Scanned host text) (second : document.Scanned host other) :
    text = other := by
  obtain ⟨saved, own⟩ := document
  cases saved with
  | none => exact first.symm.trans second
  | some path => exact Except.ok.inj (first.symm.trans second)

/-- A document that was just read is looked at as it is. -/
theorem Document.scanned_of_ofFile {document : Document} {host : Host} {path : Path}
    (read : Document.ofFile host path = .ok document) : document.Scanned host document.text := by
  rw [Document.ofFile, bind_eq_ok_iff] at read
  obtain ⟨text, saved, made⟩ := read
  rw [← pure_eq_ok_iff.mp made]
  exact mapError_eq_ok_iff.mp saved

namespace Configuration

variable {configuration : Configuration} {host : Host} {document : Document}

theorem resolveOffset_eq_ok_iff {found : Option Nat} {policy : MissingPolicy} {path : Path}
    {marker : String} {offset : Nat} :
    resolveOffset found policy path marker = .ok offset ↔ offset? found policy = some offset := by
  rw [resolveOffset]
  cases offset? found policy <;> simp

/-- The offset of a document is the one that belongs to the text that is looked at. -/
theorem blockOffset_eq_ok_iff {offset : Nat} :
    configuration.blockOffset host document = .ok offset ↔
      ∃ text, document.Scanned host text ∧
        OffsetIn text configuration.styleMarker configuration.missingBlock offset := by
  obtain ⟨saved, text⟩ := document
  simp only [blockOffset, Document.Scanned, ← offset?_eq_some_iff]
  cases saved with
  | none => simp only [resolveOffset_eq_ok_iff, exists_eq_left']
  | some path =>
      simp only [bind_eq_ok_iff, locateInFile, map_eq_ok_iff, mapError_eq_ok_iff,
        resolveOffset_eq_ok_iff]
      constructor
      · rintro ⟨found, ⟨text, read, rfl⟩, offset⟩
        exact ⟨text, read, offset⟩
      · rintro ⟨text, read, offset⟩
        exact ⟨_, ⟨text, read, rfl⟩, offset⟩

/-- The linter runs on a document when there is an offset for it and its process writes a text. -/
theorem runLinter_eq_ok_iff {output : RawOutput} :
    configuration.runLinter host document = .ok output ↔
      configuration.blockOffset host document = .ok output.offset ∧
        (configuration.invocation host document).runText host document.text.toUTF8.toList =
          .ok output.text := by
  simp only [runLinter, bind_eq_ok_iff, pure_eq_ok_iff]
  constructor
  · rintro ⟨offset, found, text, written, rfl⟩
    exact ⟨found, written⟩
  · rintro ⟨found, written⟩
    exact ⟨_, found, _, written, rfl⟩

/-- A run succeeds when an offset belongs to the text that is looked at and a process, fed the
document itself, writes a text. The offset belongs to the document as well when the search gives the
same in both, and so it does for a document in memory and for one that was just read. -/
theorem runLinter_offset_of_scanned (configuration : Configuration) (host : Host)
    (document : Document) (output : RawOutput) :
    let ran := configuration.runLinter host document = .ok output
    let belongs := fun text =>
      OffsetIn text configuration.styleMarker configuration.missingBlock output.offset
    let offset := fun text =>
      offset? (firstMarkerLine text configuration.styleMarker) configuration.missingBlock
    let input := document.text.toUTF8.toList
    (ran ↔ ∃ scanned execution, document.Scanned host scanned ∧ belongs scanned ∧
      (configuration.invocation host document).prepare host input = .ok execution ∧
      execution.input = input ∧
      Text.decodeUtf8 (host.execute execution).output = .ok output.text.toList) ∧
    (∀ scanned, document.Scanned host scanned → ran →
      belongs scanned ∧ (belongs document.text ↔ offset scanned = offset document.text)) ∧
    (document.path = none → ran → belongs document.text) ∧
    (∀ path, Document.ofFile host path = .ok document → ran → belongs document.text) := by
  intro ran belongs offset input
  have looked (scanned : String) (looks : document.Scanned host scanned) (ran : ran) :
      belongs scanned := by
    obtain ⟨found, -⟩ := runLinter_eq_ok_iff.mp ran
    obtain ⟨text, looks', belongs⟩ := blockOffset_eq_ok_iff.mp found
    rwa [looks.unique looks']
  refine ⟨?_, ?_, ?_, fun path read => looked _ (Document.scanned_of_ofFile read)⟩
  · constructor
    · intro ran
      obtain ⟨found, written⟩ := runLinter_eq_ok_iff.mp ran
      obtain ⟨text, looks, belongs⟩ := blockOffset_eq_ok_iff.mp found
      obtain ⟨execution, prepared, decoded⟩ := Invocation.runText_eq_ok_iff.mp written
      have carried := Invocation.carriedOut_of_prepare prepared
      exact ⟨text, execution, looks, belongs, prepared, carried.input, decoded⟩
    · rintro ⟨text, execution, looks, belongs, prepared, -, decoded⟩
      exact runLinter_eq_ok_iff.mpr ⟨blockOffset_eq_ok_iff.mpr ⟨text, looks, belongs⟩,
        Invocation.runText_eq_ok_iff.mpr ⟨execution, prepared, decoded⟩⟩
  · intro scanned looks ran
    have here := looked scanned looks ran
    refine ⟨here, ?_⟩
    have given := (offset?_eq_some_iff scanned _ _ _).mpr here
    change offset scanned = some output.offset at given
    change OffsetIn document.text _ _ _ ↔ _
    rw [← offset?_eq_some_iff, given]
    exact eq_comm
  · intro unsaved
    refine looked _ ?_
    rw [Document.Scanned, unsaved]

/-- The linter is fed a text that was not saved yet, but the offset is that of the saved one. -/
theorem not_offsetIn_of_unsaved_text :
    let host : Host := ⟨⟨[(["page.html".toList], .file "<style>".toUTF8.toList false),
      (["bin".toList], .directory), (["bin".toList, "stylelint".toList], .command [])]⟩, [],
      fun execution => ⟨execution.input, []⟩⟩
    let document : Document := ⟨some (Path.ofString "page.html"), "<p>\n<style>"⟩
    Configuration.standard.runLinter host document = .ok ⟨document.text, 0⟩ ∧
      OffsetIn document.text "<style" .zero 1 ∧ ¬ OffsetIn document.text "<style" .zero 0 := by
  intro host document
  refine ⟨by decide +kernel, ?_, ?_⟩
  · exact (offset?_eq_some_iff _ _ _ _).mp (by decide +kernel)
  · intro belongs
    exact absurd ((offset?_eq_some_iff _ _ _ _).mpr belongs) (by decide +kernel)

end Configuration

end SheetLint
