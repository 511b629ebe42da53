/-
This file gathers what was found in each file and counts it.
-/

import SheetLint.Diagnostic

namespace SheetLint

/-- This is what was found in one file. The error is set when the file could not be linted. -/
structure FileReport where
  file : String
  diagnostics : List Diagnostic
  failures : List String
  error : Option String
  deriving DecidableEq, Repr

structure Summary where
  errors : Nat
  warnings : Nat
  failures : Nat
  files : Nat
  deriving DecidableEq, Repr

/-- This is the result of one run. -/
structure LintResult where
  files : List FileReport
  deriving DecidableEq, Repr

/-- This test holds for the one severity that makes a run fail. -/
def Diagnostic.isError (diagnostic : Diagnostic) : Bool :=
  diagnostic.severity == "error"

namespace Summary

def add (left right : Summary) : Summary :=
  ⟨left.errors + right.errors, left.warnings + right.warnings,
    left.failures + right.failures, left.files + right.files⟩

/-- This is the count for one file. Every severity but one counts as a warning, and an error of
the file itself as a failure. -/
def ofFile (report : FileReport) : Summary :=
  { errors := report.diagnostics.countP Diagnostic.isError
    warnings := report.diagnostics.countP fun diagnostic => !diagnostic.isError
    failures := report.failures.length + report.error.toList.length
    files := 1 }

end Summary

namespace LintResult

def summary (result : LintResult) : Summary :=
  result.files.foldr (fun report summary => (Summary.ofFile report).add summary) ⟨0, 0, 0, 0⟩

/-- This test holds for a result that should make the run fail. -/
def hasProblems (result : LintResult) : Bool :=
  0 < result.summary.errors || 0 < result.summary.failures

/-- This is the exit status of a run over files: two when some file could not be linted, one when
there are problems. -/
def exitStatus (result : LintResult) : Nat :=
  if result.files.any fun report => report.error.isSome then 2
  else if result.hasProblems then 1
  else 0

end LintResult

end SheetLint
