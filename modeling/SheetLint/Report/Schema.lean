/-
This file reads a report out of a JSON value. Every record may also be a list of its fields in the
order of declaration. Unknown keys are skipped.
-/

import SheetLint.Json.Value
import SheetLint.Report

namespace SheetLint.Report.Schema

open SheetLint.Json

abbrev Decoder (Result : Type) := Value → Except Misfit Result

def decodeText : Decoder String
  | .text value => .ok value
  | other => .error (.kind other.found "a string")

/-- This function accepts the whole numbers of 64 bits with sign. -/
def decodeCoordinate : Decoder Int64
  | .number (.whole value) =>
      if Int64.minValue.toInt ≤ value ∧ value ≤ Int64.maxValue.toInt then
        .ok (Int64.ofInt value)
      else .error (.value (.integer value) "i64")
  | other => .error (.kind other.found "i64")

/-- This function decodes the items from the first on and stops at the first misfit. -/
def decodeItems {Result : Type} (decode : Decoder Result) :
    List Value → Except Misfit (List Result)
  | [] => .ok []
  | item :: items => do
      let result ← decode item
      let results ← decodeItems decode items
      return result :: results

def decodeList {Result : Type} (decode : Decoder Result) : Decoder (List Result)
  | .sequence items => decodeItems decode items
  | other => .error (.kind other.found "a sequence")

/-- This function looks at a value only to see whether it fits. -/
def check {Result : Type} (decode : Decoder Result) (value : Value) : Except Misfit Unit :=
  (decode value).map fun _ => ()

/-- This function checks the entries in the order of the document. -/
def checkEntries (checkEntry : String → Value → Except Misfit Unit) :
    List (String × Value) → Except Misfit Unit
  | [] => .ok ()
  | entry :: entries => do
      checkEntry entry.1 entry.2
      checkEntries checkEntry entries

/-- This is the value of a key that must be there. -/
def required {Result : Type} (decode : Decoder Result) (key : String)
    (entries : List (String × Value)) : Except Misfit Result :=
  match entries.lookup key with
  | some value => decode value
  | none => .error (.missingField key)

/-- This is the value of a key, or the empty list where the key is absent. -/
def listOrEmpty {Item : Type} (decode : Decoder (List Item)) (key : String)
    (entries : List (String × Value)) : Except Misfit (List Item) :=
  match entries.lookup key with
  | some value => decode value
  | none => .ok []

/-- This is the field at a place of a record that is written as a list. -/
def fieldAt {Result : Type} (decode : Decoder Result) (place : Nat) (record : String)
    (items : List Value) : Except Misfit Result :=
  match items[place]? with
  | some value => decode value
  | none => .error (.length items.length record)

/-- This function refuses a list that has more items than the record has fields. -/
def refuseMore (count : Nat) (items : List Value) : Except Misfit Unit :=
  if items.length ≤ count then .ok ()
  else .error (.length items.length "fewer elements in array")

def checkFeedbackEntry (key : String) (value : Value) : Except Misfit Unit :=
  if key = "text" then check decodeText value else .ok ()

def decodeFeedback : Decoder Feedback
  | .mapping entries => do
      checkEntries checkFeedbackEntry entries
      let text ← required decodeText "text" entries
      return ⟨text⟩
  | .sequence items => do
      let text ← fieldAt decodeText 0 "struct Feedback with 1 element" items
      refuseMore 1 items
      return ⟨text⟩
  | other => .error (.kind other.found "struct Feedback")

def checkWarningEntry (key : String) (value : Value) : Except Misfit Unit :=
  if key = "line" ∨ key = "column" then check decodeCoordinate value
  else if key = "severity" ∨ key = "rule" ∨ key = "text" then check decodeText value
  else .ok ()

def decodeWarning : Decoder Warning
  | .mapping entries => do
      checkEntries checkWarningEntry entries
      let line ← required decodeCoordinate "line" entries
      let column ← required decodeCoordinate "column" entries
      let severity ← required decodeText "severity" entries
      let rule ← required decodeText "rule" entries
      let text ← required decodeText "text" entries
      return { line, column, severity, rule, text }
  | .sequence items => do
      let record := "struct Warning with 5 elements"
      let line ← fieldAt decodeCoordinate 0 record items
      let column ← fieldAt decodeCoordinate 1 record items
      let severity ← fieldAt decodeText 2 record items
      let rule ← fieldAt decodeText 3 record items
      let text ← fieldAt decodeText 4 record items
      refuseMore 5 items
      return { line, column, severity, rule, text }
  | other => .error (.kind other.found "struct Warning")

def checkReportEntry (key : String) (value : Value) : Except Misfit Unit :=
  if key = "invalidOptionWarnings" ∨ key = "deprecations" then
    check (decodeList decodeFeedback) value
  else if key = "warnings" then check (decodeList decodeWarning) value
  else .ok ()

/-- This is the list at a place of a record that is written as a list; the end may be cut off. -/
def listAt {Item : Type} (decode : Decoder (List Item)) (place : Nat) (items : List Value) :
    Except Misfit (List Item) :=
  match items[place]? with
  | some value => decode value
  | none => .ok []

def decodeReport : Decoder Report
  | .mapping entries => do
      checkEntries checkReportEntry entries
      let invalidOptions ←
        listOrEmpty (decodeList decodeFeedback) "invalidOptionWarnings" entries
      let deprecations ← listOrEmpty (decodeList decodeFeedback) "deprecations" entries
      let warnings ← listOrEmpty (decodeList decodeWarning) "warnings" entries
      return { invalidOptions, deprecations, warnings }
  | .sequence items => do
      let invalidOptions ← listAt (decodeList decodeFeedback) 0 items
      let deprecations ← listAt (decodeList decodeFeedback) 1 items
      let warnings ← listAt (decodeList decodeWarning) 2 items
      refuseMore 3 items
      return { invalidOptions, deprecations, warnings }
  | other => .error (.kind other.found "struct Report")

end SheetLint.Report.Schema
