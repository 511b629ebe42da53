/-
This file shows results to people, with places counted from one, and to programs, as JSON.
-/

import SheetLint.Json.Writer
import SheetLint.LintResult
import SheetLint.Rendering.Terminal

namespace SheetLint

inductive Mode where
  | human
  | json
  deriving DecidableEq, Repr

/-- Every name but one stands for the form for people. -/
def Mode.ofName (name : String) : Mode :=
  if name = "json" then .json else .human

/-- Colours are used for people unless the environment turns them off. -/
def Mode.coloured (mode : Mode) (colourless : Bool) : Bool :=
  mode != .json && !colourless

namespace Rendering

open SheetLint.Json SheetLint.Terminal

def errorLabel (colourless : Bool) : String :=
  label (Mode.human.coloured colourless) .red "error:"

def noteLabel (colourless : Bool) : String :=
  label (Mode.human.coloured colourless) .yellow "note:"

def infoLabel (colourless : Bool) : String :=
  label (Mode.human.coloured colourless) .blue "info:"

/-- This is the line for one diagnostic. -/
def diagnosticLine (coloured : Bool) (file : String) (diagnostic : Diagnostic) : String :=
  let colour := if diagnostic.isError then Colour.red else Colour.yellow
  let icon := if diagnostic.isError then "✖" else "▲"
  let severity := if diagnostic.isError then "⟦error⟧" else "⟦warn⟧"
  let place := file ++ ":" ++ toString (diagnostic.line + 1) ++ ":" ++
    toString (diagnostic.column + 1)
  (if coloured then paint colour icon else icon) ++ " " ++ label coloured colour severity ++ " " ++
    (if coloured then bold place else place) ++ " ❲" ++ diagnostic.rule ++ "❳ — " ++
    diagnostic.message

/-- These are the lines for one file: its diagnostics, its notes and its error. -/
def fileLines (coloured colourless : Bool) (report : FileReport) : List String :=
  report.diagnostics.map (diagnosticLine coloured report.file) ++
    report.failures.map (fun note =>
      noteLabel colourless ++ " " ++ report.file ++ " — " ++ note) ++
    report.error.toList.map fun error =>
      errorLabel colourless ++ " " ++ report.file ++ " — " ++ error

def summaryLine (coloured : Bool) (summary : Summary) : String :=
  let text := "— Summary — errors=" ++ toString summary.errors ++ " warnings=" ++
    toString summary.warnings ++ " failures=" ++ toString summary.failures ++ " files=" ++
    toString summary.files
  if coloured then bold text else text

/-- This is the form for people, every line with its end. -/
def humanText (colourless : Bool) (result : LintResult) : String :=
  let coloured := Mode.human.coloured colourless
  let lines := result.files.flatMap (fileLines coloured colourless) ++
    [summaryLine coloured result.summary]
  String.join (lines.map (· ++ "\n"))

def count (number : Nat) : Value :=
  .number (.whole number)

def diagnosticJson (diagnostic : Diagnostic) : Value :=
  .mapping [
    ("line", count diagnostic.line),
    ("col", count diagnostic.column),
    ("error_type", .text diagnostic.severity),
    ("code", .text diagnostic.rule),
    ("message", .text diagnostic.message)]

def fileJson (report : FileReport) : Value :=
  .mapping ([
    ("file", .text report.file),
    ("diagnostics", .sequence (report.diagnostics.map diagnosticJson)),
    ("failures", .sequence (report.failures.map Value.text))] ++
    report.error.toList.map fun error => ("error", .text error))

def summaryJson (summary : Summary) : Value :=
  .mapping [
    ("errors", count summary.errors),
    ("warnings", count summary.warnings),
    ("failures", count summary.failures),
    ("files", count summary.files)]

/-- This is the whole result as a JSON value. -/
def resultJson (result : LintResult) : Value :=
  .mapping [
    ("files", .sequence (result.files.map fileJson)),
    ("summary", summaryJson result.summary)]

def jsonText (result : LintResult) : String :=
  String.ofList (pretty 0 (resultJson result) ++ ['\n'])

end Rendering

/-- This is what is printed for a result. -/
def LintResult.render (result : LintResult) (mode : Mode) (colourless : Bool) : String :=
  match mode with
  | .json => Rendering.jsonText result
  | .human => Rendering.humanText colourless result

end SheetLint
