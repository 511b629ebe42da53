/-
This file turns the linter's warnings into diagnostics. Lines and columns of a diagnostic count
from zero, and lines count from the start of the style block.
-/

import SheetLint.Report
import SheetLint.Text.Blank
import SheetLint.Text.Occurrence

namespace SheetLint

structure Diagnostic where
  line : Nat
  column : Nat
  severity : String
  rule : String
  message : String
  deriving DecidableEq, Repr

/-- This is the difference, or the nearest bound when it leaves the range of 64 bits. -/
def saturatingSub (left right : Int64) : Int64 :=
  Int64.ofInt (max Int64.minValue.toInt (min Int64.maxValue.toInt (left.toInt - right.toInt)))

/-- This is the offset as a number of 64 bits with sign, or the largest one. -/
def signedOffset (offset : Nat) : Int64 :=
  if offset ≤ Int64.maxValue.toInt.toNat then Int64.ofNat offset else Int64.maxValue

inductive Axis where
  | line
  | column

def Axis.name : Axis → String
  | .line => "line"
  | .column => "column"

/-- This is the log line about a place that lies before the style block. -/
def Warning.clampNote (warning : Warning) (axis : Axis) : String :=
  axis.name ++ " " ++ toString warning.line.toInt ++ ":" ++ toString warning.column.toInt ++
    " of rule '" ++ warning.rule ++ "' lies before the style block; clamped to 0"

/-- This function replaces a negative place by zero and logs that. -/
def Warning.clamp (warning : Warning) (axis : Axis) (place : Int64) : Nat × List String :=
  if place.toInt < 0 then (0, [warning.clampNote axis]) else (place.toInt.toNat, [])

/-- This is the name of the rule as the linter adds it to its texts. -/
def Warning.annotation (warning : Warning) : List Char :=
  ['('] ++ warning.rule.toList ++ [')']

/-- This is the text without the name of the rule and without white space at its end. -/
def Warning.message (warning : Warning) : String :=
  String.ofList (Text.trimEnd (Text.removeAll warning.annotation warning.text.toList))

/-- This function moves a warning behind the offset and gives the log lines for that. -/
def Warning.diagnose (offset : Nat) (warning : Warning) : Diagnostic × List String :=
  let line := warning.clamp .line
    (saturatingSub (saturatingSub warning.line (signedOffset offset)) 1)
  let column := warning.clamp .column (saturatingSub warning.column 1)
  ({ line := line.1
     column := column.1
     severity := warning.severity
     rule := warning.rule
     message := warning.message }, line.2 ++ column.2)

end SheetLint
