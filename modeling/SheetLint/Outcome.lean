/-
This file sorts the output of the linter: it is blank, the text of a crash, a report, or nothing
usable.
-/

import SheetLint.Json.Reader
import SheetLint.Report.Schema
import SheetLint.Text.Blank
import SheetLint.Text.Occurrence
import SheetLint.Text.WordCharacter

namespace SheetLint

/-- This is a reason why an output is no report. -/
inductive Defect where
  | unreadable (cause : Json.Cause) (position : Json.Position)
  | noResult
  | shape (misfit : Misfit)
  deriving DecidableEq, Repr

def Defect.message : Defect → String
  | .unreadable cause position =>
      "invalid linter output: " ++ cause.message ++ " at line " ++ toString position.line ++
        " column " ++ toString position.column
  | .noResult => "invalid linter output: empty result array"
  | .shape misfit => "unexpected report shape: " ++ misfit.message

inductive Outcome where
  | empty
  | crashed (message : String)
  | parsed (report : Report)
  | malformed (defect : Defect)
  deriving DecidableEq

namespace Outcome

/-- This is the text that announces a crash. -/
def crashMark : List Char := ['E', 'r', 'r', 'o', 'r', ':', ' ']

/-- This is the crash message of an output: what follows the first mark on the first line, or
otherwise on the second line when only word characters stand before the mark there. -/
def crashMessage? (output : List Char) : Option (List Char) :=
  match Text.lines output with
  | [] => none
  | first :: others =>
      match Text.splitAtFirst crashMark first with
      | some parts => some parts.2
      | none =>
          match others with
          | [] => none
          | second :: _ =>
              match Text.splitAtFirst crashMark second with
              | some parts => if parts.1.all Text.isWordCharacter then some parts.2 else none
              | none => none

/-- This function reads the first item of the list that the linter prints. -/
def readReport (output : List Char) : Except Defect Report :=
  match Json.readList output with
  | .error fault => .error (.unreadable fault.cause (fault.position output))
  | .ok [] => .error .noResult
  | .ok (first :: _) =>
      match Report.Schema.decodeReport first with
      | .error misfit => .error (.shape misfit)
      | .ok report => .ok report

/-- This function sorts an output; the text of a crash goes before everything else. -/
def classify (output : String) : Outcome :=
  match crashMessage? output.toList with
  | some message => .crashed (String.ofList (Text.trimEnd message))
  | none =>
      if output.toList.all Text.isBlank then .empty
      else
        match readReport output.toList with
        | .ok report => .parsed report
        | .error defect => .malformed defect

end Outcome

end SheetLint
