/-
This file reads settings from TOML. A value that does not fit is shown where it stands.
-/

import SheetLint.Settings
import SheetLint.Toml.Reader

namespace SheetLint.Settings.FromToml

open SheetLint.Toml

/-- This is a reason why a value of TOML does not fit. -/
inductive Cause where
  | misfit (reason : Misfit)
  | neitherTextNorTable
  | noEntry
  | manyEntries
  | listNotEmpty
  | tableNotEmpty
  | noTable (kind : String)
  deriving DecidableEq, Repr

def Cause.message : Cause → String
  | .misfit reason => reason.message
  | .neitherTextNorTable => "wanted string or table"
  | .noEntry => "wanted exactly 1 element, found 0 elements"
  | .manyEntries => "wanted exactly 1 element, more than 1 element"
  | .listNotEmpty => "expected empty array"
  | .tableNotEmpty => "expected empty table"
  | .noTable kind => "expected table, found " ++ kind

structure Fault where
  cause : Cause
  span : Span
  deriving DecidableEq, Repr

abbrev Decoder (Result : Type) := Span → Value → Except Fault Result

def refuse {Result : Type} (span : Span) (value : Value) (expected : String) :
    Except Fault Result :=
  .error ⟨.misfit (.kind value.found expected), span⟩

def decodeText : Decoder String
  | _, .scalar (.text value) => .ok value
  | span, other => refuse span other "a string"

def decodeTexts : Decoder (List String)
  | _, .list items => items.mapM fun item => decodeText item.1 item.2
  | _, .tables items => items.mapM fun item => decodeText item.1 item.2
  | span, other => refuse span other "a sequence"

/-- These are the entries in the order of their keys. -/
def sorted (entries : Entries) : Entries :=
  entries.mergeSort fun entry other => !decide (other.1.name < entry.1.name)

def decodeEnvironment : Decoder Environment
  | _, .table _ entries =>
      (sorted entries).mapM fun entry => do
        let value ← decodeText entry.2.1 entry.2.2
        return (entry.1.name, value)
  | span, other => refuse span other "a map"

def decodePolicyName (span : Span) (name : String) :
    Except Fault StyleBlock.MissingPolicy :=
  (policyOfName name).mapError fun reason => ⟨.misfit reason, span⟩

/-- A policy is a name, or a table whose only key is the name and whose value is empty. -/
def decodePolicy : Decoder StyleBlock.MissingPolicy
  | span, .scalar (.text name) => decodePolicyName span name
  | span, .table _ [] => .error ⟨.noEntry, span⟩
  | _, .table _ [(key, span, value)] => do
      let policy ← decodePolicyName key.span key.name
      match value with
      | .list [] => return policy
      | .tables [] => return policy
      | .table _ [] => return policy
      | .list _ => throw ⟨.listNotEmpty, span⟩
      | .tables _ => throw ⟨.listNotEmpty, span⟩
      | .table _ _ => throw ⟨.tableNotEmpty, span⟩
      | other => throw ⟨.noTable other.kindName, span⟩
  | span, .table _ _ => .error ⟨.manyEntries, span⟩
  | span, _ => .error ⟨.neitherTextNorTable, span⟩

/-- This function takes over one entry; unknown keys are skipped. -/
def decodeEntry (settings : Settings) (entry : Key × Span × Value) : Except Fault Settings := do
  let (key, span, value) := entry
  match key.name with
  | "executable" => return { settings with executable := some (← decodeText span value) }
  | "args" => return { settings with arguments := some (← decodeTexts span value) }
  | "selector" => return { settings with selector := some (← decodeText span value) }
  | "output" => return { settings with output := some (← decodeText span value) }
  | "workingDir" => return { settings with workingDirectory := some (← decodeText span value) }
  | "styleMarker" => return { settings with styleMarker := some (← decodeText span value) }
  | "missingStyleBlock" =>
      return { settings with missingBlock := some (← decodePolicy span value) }
  | "env" => return { settings with environment := some (← decodeEnvironment span value) }
  | _ => return settings

def decode (entries : Entries) : Except Fault Settings :=
  (sorted entries).foldlM decodeEntry Settings.none

/-- This is the line of a fault with the number of the line, the number of characters before the
fault and the number of marks under it. -/
structure Excerpt where
  line : Nat
  column : Nat
  source : String
  marks : Nat
  deriving DecidableEq, Repr

/-- This function goes to the place behind the first `skipped` bytes and remembers the line. -/
def excerptFrom (width skipped line column : Nat) (source : List Char) : List Char → Excerpt
  | character :: rest =>
      if skipped = 0 then finish
      else if character == '\n' then excerptFrom width (skipped - 1) (line + 1) 0 rest rest
      else excerptFrom width (skipped - character.utf8Size) line (column + 1) source rest
  | [] => finish
where
  finish : Excerpt :=
    let shown := source.takeWhile (· != '\n')
    ⟨line, column, String.ofList shown, max 1 (min width (Text.byteCount shown - column))⟩

/-- This is the excerpt of a text around a span. Marks stop at the end of the line. -/
def excerpt (text : List Char) (span : Span) : Excerpt :=
  excerptFrom (span.fromStart - span.fromStop) (Text.byteCount text - span.fromStart) 1 0 text text

def repeated (count : Nat) (character : Char) : String :=
  String.ofList (List.replicate count character)

/-- This is the excerpt with a reason below it. -/
def Excerpt.message (excerpt : Excerpt) (reason : String) : String :=
  let number := toString excerpt.line
  let gutter := repeated (number.length + 1) ' ' ++ "|"
  "TOML parse error at line " ++ number ++ ", column " ++ toString (excerpt.column + 1) ++ "\n" ++
    gutter ++ "\n" ++ number ++ " | " ++ excerpt.source ++ "\n" ++ gutter ++
    repeated (excerpt.column + 1) ' ' ++ repeated excerpt.marks '^' ++ "\n" ++ reason ++ "\n"

/-- This is a reason why a text gives no settings: either it is no document at all, or something
in it does not fit. -/
inductive Defect where
  | notParsed
  | misfit (cause : Cause) (excerpt : Excerpt)
  deriving DecidableEq, Repr

/-- This function reads settings. A number without a value makes a document unreadable, and where
something does not fit anyway, so does a number of more than 64 bits. -/
def read (text : String) : Except Defect Settings :=
  match Toml.read? text.toList with
  | .none => .error .notParsed
  | .some entries =>
      if !allEntries Scalar.isReadable entries then .error .notParsed
      else
        match decode entries with
        | .ok settings => .ok settings
        | .error fault =>
            if allEntries Scalar.isOrdinary entries then
              .error (.misfit fault.cause (excerpt text.toList fault.span))
            else .error .notParsed

end SheetLint.Settings.FromToml
