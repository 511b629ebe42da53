/-
This file runs the linter on a document and reads its output.
-/

import SheetLint.Configuration
import SheetLint.Diagnosis
import SheetLint.Document
import SheetLint.Invocation

namespace SheetLint

/-- This is the output of one call with the offset of the style block of its document. -/
structure RawOutput where
  text : String
  offset : Nat
  deriving DecidableEq, Repr

/-- This is the result of linting one document. -/
structure LintPass where
  diagnostics : List Diagnostic
  failures : List Failure
  logs : List String
  deriving DecidableEq

namespace StyleBlock

/-- This is the number of the first line of a file that contains the marker. -/
def locateInFile (host : Host) (path : Path) (marker : String) : Except LintError (Option Nat) :=
  ((host.readText path).mapError LintError.file).map fun text => firstMarkerLine text marker

/-- This function applies the policy to the result of the search in a document. -/
def resolveOffset (found : Option Nat) (policy : MissingPolicy) (path : Path) (marker : String) :
    Except LintError Nat :=
  match offset? found policy with
  | some offset => .ok offset
  | none => .error (.missingStyleBlock path marker)

/-- This is the path that stands for a document without one. -/
def unsavedPath : Path := Path.ofString "<stdin>"

end StyleBlock

namespace Configuration

/-- This is the offset of the style block. A saved document is looked at as it was saved. -/
def blockOffset (configuration : Configuration) (host : Host) (document : Document) :
    Except LintError Nat := do
  let marker := configuration.styleMarker
  match document.path with
  | some path =>
      let found ← StyleBlock.locateInFile host path marker
      StyleBlock.resolveOffset found configuration.missingBlock path marker
  | none =>
      StyleBlock.resolveOffset (StyleBlock.firstMarkerLine document.text marker)
        configuration.missingBlock StyleBlock.unsavedPath marker

/-- This is the directory in which the linter runs. -/
def directory (configuration : Configuration) (host : Host) : Path :=
  configuration.workingDirectory.getD host.directory

/-- This is the name under which the linter gets to know a document. It does not depend on where
the linter runs. -/
def documentName (host : Host) (document : Document) : Option Path :=
  document.path.map (Path.absolute host.directory)

/-- This is where the search for an installed linter starts. -/
def searchStart (configuration : Configuration) (host : Host) (document : Document) : Path :=
  ((documentName host document).bind Path.parent?).getD (configuration.directory host)

/-- This is the call of the linter for a document. -/
def invocation (configuration : Configuration) (host : Host) (document : Document) : Invocation :=
  let program := chooseProgram host configuration.executable
    (configuration.searchStart host document)
  ((Invocation.ofLinter program configuration.arguments (documentName host document)).inDirectory
    (configuration.directory host)).withEnvironment configuration.environment

end Configuration

/-- This is what a call writes to its standard output, as text. -/
def Invocation.runText (invocation : Invocation) (host : Host) (input : Bytes) :
    Except LintError String := do
  let streams ← (invocation.run host input).mapError (LintError.launch invocation.program)
  let characters ← (Text.decodeUtf8 streams.output).mapError LintError.notUtf8
  return String.ofList characters

/-- This function runs the linter on a document. Nothing is started without an offset. -/
def Configuration.runLinter (configuration : Configuration) (host : Host) (document : Document) :
    Except LintError RawOutput := do
  let offset ← configuration.blockOffset host document
  let text ← (configuration.invocation host document).runText host
    document.text.toUTF8.toList
  return ⟨text, offset⟩

/-- This is what the linter writes to its standard error output for a document. It has no part in
the result. -/
def Configuration.complaints (configuration : Configuration) (host : Host)
    (document : Document) : Bytes :=
  let streams := (configuration.invocation host document).run host document.text.toUTF8.toList
  match configuration.blockOffset host document, streams with
  | .ok _, .ok streams => streams.errors
  | _, _ => []

/-- This function draws all diagnostics of an output at once. -/
def RawOutput.diagnose (output : RawOutput) : LintPass :=
  let diagnosis := SheetLint.diagnose output.offset output.text
  let drained := diagnosis.pending.drain
  ⟨drained.1, diagnosis.failures, diagnosis.logs ++ drained.2⟩

/-- This is some way to run a linter. -/
abbrev Runner := Document → Except LintError RawOutput

namespace Runner

/-- This function lints a document. -/
def lintDocument (runner : Runner) (document : Document) : Except LintError LintPass :=
  (runner document).map RawOutput.diagnose

/-- This function lints the file at a path. -/
def lintPath (runner : Runner) (host : Host) (path : Path) : Except LintError LintPass := do
  runner.lintDocument (← Document.ofFile host path)

end Runner

end SheetLint
