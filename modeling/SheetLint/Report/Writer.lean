/-
This file writes a report the way the linter prints it: as a list with one object.
-/

import SheetLint.Json.Writer
import SheetLint.Report

namespace SheetLint

open SheetLint.Json

def Feedback.toJson (feedback : Feedback) : Value :=
  .mapping [("text", .text feedback.text)]

def Warning.toJson (warning : Warning) : Value :=
  .mapping [
    ("line", .number (.whole warning.line.toInt)),
    ("column", .number (.whole warning.column.toInt)),
    ("severity", .text warning.severity),
    ("rule", .text warning.rule),
    ("text", .text warning.text)]

def Report.toJson (report : Report) : Value :=
  .mapping [
    ("invalidOptionWarnings", .sequence (report.invalidOptions.map Feedback.toJson)),
    ("deprecations", .sequence (report.deprecations.map Feedback.toJson)),
    ("warnings", .sequence (report.warnings.map Warning.toJson))]

/-- This is the text of the report without gaps. -/
def Report.write (report : Report) : String :=
  String.ofList (compact (.sequence [report.toJson]))

end SheetLint
