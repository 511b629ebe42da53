/-
This file turns an output into notes for the host and diagnostics that are drawn one by one.
-/

import SheetLint.Diagnostic
import SheetLint.Failure

namespace SheetLint

/-- These are the diagnostics of one output that are still to be drawn. -/
structure Pending where
  offset : Nat
  warnings : List Warning
  deriving DecidableEq

namespace Pending

/-- This is the number of diagnostics still to be drawn. -/
def length (pending : Pending) : Nat :=
  pending.warnings.length

/-- This function draws the next diagnostic with its log lines. -/
def next (pending : Pending) : Option Diagnostic × List String × Pending :=
  match pending.warnings with
  | [] => (none, [], pending)
  | warning :: warnings =>
      let (diagnostic, logs) := warning.diagnose pending.offset
      (some diagnostic, logs, { pending with warnings })

/-- This function draws all remaining diagnostics. -/
def drain (pending : Pending) : List Diagnostic × List String :=
  let drawn := pending.warnings.map (Warning.diagnose pending.offset)
  (drawn.map Prod.fst, drawn.flatMap Prod.snd)

theorem drain_of_next {pending rest : Pending} {diagnostic : Diagnostic} {logs : List String}
    (drawn : pending.next = (some diagnostic, logs, rest)) :
    pending.drain = (diagnostic :: rest.drain.1, logs ++ rest.drain.2) := by
  obtain ⟨offset, warnings⟩ := pending
  cases warnings with
  | nil => simp [next] at drawn
  | cons warning warnings =>
      simp only [next, Prod.mk.injEq, Option.some.injEq] at drawn
      obtain ⟨equalDiagnostic, equalLogs, equalRest⟩ := drawn
      simp [drain, ← equalDiagnostic, ← equalLogs, ← equalRest]

end Pending

/-- This is what one output comes to: the notes for the host, the lines logged at once, and the
diagnostics to be drawn. -/
structure Diagnosis where
  failures : List Failure
  logs : List String
  pending : Pending
  deriving DecidableEq

/-- This is a note for the host about feedback, unless there is none. -/
def feedbackNote (note : List String → Failure) (feedback : List Feedback) : List Failure :=
  if feedback.isEmpty then [] else [note (feedback.map Feedback.text)]

namespace Diagnosis

/-- This function gives the notes, log lines and warnings that each kind of outcome calls for. -/
def ofOutcome (offset : Nat) : Outcome → Diagnosis
  | .empty => ⟨[], [], ⟨offset, []⟩⟩
  | .crashed message =>
      let failure := Failure.crashed message
      ⟨[failure], [failure.message], ⟨offset, []⟩⟩
  | .malformed defect => ⟨[.malformed defect], [defect.message], ⟨offset, []⟩⟩
  | .parsed report =>
      { failures := feedbackNote .invalidOptions report.invalidOptions ++
          feedbackNote .deprecations report.deprecations
        logs := report.invalidOptions.map Feedback.text ++ report.deprecations.map Feedback.text
        pending := ⟨offset, report.warnings⟩ }

/-- This function hands the notes to a sink, one by one in their order. A sink takes a note by
changing its state. -/
def notify {State : Type} (diagnosis : Diagnosis) (sink : State → Failure → State)
    (state : State) : State :=
  diagnosis.failures.foldl sink state

end Diagnosis

/-- This is the diagnosis of an output whose style block starts at the offset. -/
def diagnose (offset : Nat) (output : String) : Diagnosis :=
  Diagnosis.ofOutcome offset (Outcome.classify output)

end SheetLint
