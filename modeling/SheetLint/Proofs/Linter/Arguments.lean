/-
This file says what a call of the linter is given. The name of a saved document leads, from where
the linter runs, to the file that the document was saved in, and neither this name nor the program
depends on where that is.
-/

import SheetLint.Proofs.Linter.Program
import SheetLint.Proofs.Linter.Refusal

namespace SheetLint

namespace Configuration

variable {configuration : Configuration} {host : Host} {document : Document}

/-- This is the configuration with another directory in which the linter runs. -/
def movedTo (configuration : Configuration) (directory : Option Path) : Configuration :=
  { configuration with workingDirectory := directory }

theorem arguments_invocation (configuration : Configuration) (host : Host) (document : Document) :
    (configuration.invocation host document).arguments =
      configuration.arguments ++ ["--formatter", "json"] ++
        match documentName host document with
        | some name => ["--stdin-filename", name.toString]
        | none => [] := rfl

/-- A document with an offset was not saved, or its file can be read. -/
theorem exists_readText_of_blockOffset {offset : Nat} {path : Path}
    (located : configuration.blockOffset host document = .ok offset)
    (saved : document.path = some path) : ∃ text, host.readText path = .ok text := by
  obtain ⟨text, scanned, -⟩ := blockOffset_eq_ok_iff.mp located
  rw [Document.Scanned, saved] at scanned
  exact ⟨text, scanned⟩

theorem program_movedTo {path : Path} {text : String}
    (here : host.tree.Reaches [] host.directory host.current)
    (saved : document.path = some path) (read : host.readText path = .ok text)
    (directory : Option Path) :
    ((configuration.movedTo directory).invocation host document).program =
      (configuration.invocation host document).program := by
  obtain ⟨parent, above, -⟩ := exists_parent_of_readText here read
  change chooseProgram host configuration.executable _ =
    chooseProgram host configuration.executable _
  rw [searchStart_of_saved configuration saved above,
    searchStart_of_saved (configuration.movedTo directory) saved above]

/-- A call is given the arguments of the configuration, the format and, if the document was saved,
an absolute name. From anywhere the name leads to the file that the path of the document leads to.
The directory in which the linter runs changes neither the arguments nor, once the file was read,
the program. What is started is given this. -/
theorem arguments_of_document (configuration : Configuration) (host : Host) (document : Document)
    (here : host.tree.Reaches [] host.directory host.current) :
    let invocation := configuration.invocation host document
    let moved := fun directory => (configuration.movedTo directory).invocation host document
    (document.path = none →
      invocation.arguments = configuration.arguments ++ ["--formatter", "json"]) ∧
    (∀ path, document.path = some path → ∃ name : Path,
      invocation.arguments = configuration.arguments ++
        ["--formatter", "json", "--stdin-filename", name.toString] ∧
      name.isAbsolute = true ∧
      (∀ child file, host.tree.resolve host.current path = .ok file →
        host.tree.Denotes child name file ∧
          (name.Admitted → host.tree.resolve child name = .ok file)) ∧
      (∀ directory, (moved directory).arguments = invocation.arguments) ∧
      ∀ offset, configuration.blockOffset host document = .ok offset →
        (∃ file, host.tree.resolve host.current path = .ok file) ∧
          ∀ directory, (moved directory).program = invocation.program) ∧
    ∀ execution, configuration.Launches host document execution →
      invocation.CarriedOut host document.text.toUTF8.toList execution := by
  intro invocation moved
  refine ⟨?_, ?_, fun execution launched => Invocation.carriedOut_of_prepare launched.prepared⟩
  · intro unsaved
    rw [arguments_invocation, documentName, unsaved]
    exact List.append_nil _
  · intro path saved
    refine ⟨Path.absolute host.directory path, ?_, Path.isAbsolute_absolute rfl path, ?_,
      fun directory => rfl, ?_⟩
    · rw [arguments_invocation, documentName, saved]
      exact List.append_assoc _ _ _
    · intro child file resolved
      have denotes := (FileTree.resolve_eq_ok_iff.mp resolved).2.absolute here child
      exact ⟨denotes, fun admitted => FileTree.resolve_eq_ok_iff.mpr ⟨admitted, denotes⟩⟩
    · intro offset located
      obtain ⟨text, read⟩ := exists_readText_of_blockOffset located saved
      obtain ⟨file, resolved, -⟩ := FileTree.exists_resolve_of_readText read
      exact ⟨⟨file, resolved⟩, program_movedTo here saved read⟩

/-- The name of a document behind the directory above the current one is followed from the
directory in which the linter runs. -/
theorem arguments_of_climbing_path :
    let host : Host := ⟨⟨[(["web"], .directory), (["web", "a.css"], .file [] false),
      (["work"], .directory)].map fun entry => (entry.1.map String.toList, entry.2)⟩,
      ["work".toList], fun _ => ⟨[], []⟩⟩
    let configuration : Configuration :=
      { Configuration.standard with
        arguments := ["-q"], workingDirectory := some (Path.ofString "../web") }
    let document : Document := ⟨some (Path.ofString "./../web//a.css"), ""⟩
    let name := Path.ofString "/work/../web/a.css"
    let file := ["web".toList, "a.css".toList]
    host.tree.Reaches [] host.directory host.current ∧
      (configuration.invocation host document).arguments =
        ["-q", "--formatter", "json", "--stdin-filename", name.toString] ∧
      ∃ child, Invocation.runDirectory host (configuration.directory host) = .ok child ∧
        host.tree.resolve child name = .ok file := by
  intro host configuration document name file
  have here : host.tree.Reaches [] host.directory host.current := ⟨by decide, by decide⟩
  obtain ⟨shown, arguments, -, leads, -⟩ :=
    (arguments_of_document configuration host document here).2.1 _ rfl
  have given : (configuration.invocation host document).arguments =
      ["-q", "--formatter", "json", "--stdin-filename", name.toString] := by decide
  have same : shown = name := by
    rw [given] at arguments
    simpa [configuration, Path.toString_inj, eq_comm] using arguments
  obtain ⟨-, resolved⟩ := leads ["web".toList] file (by decide)
  rw [same] at resolved
  exact ⟨here, given, ["web".toList], by decide, resolved ⟨by decide, by decide, by decide⟩⟩

end Configuration

end SheetLint
