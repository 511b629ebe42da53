/-
This file draws from several outputs side by side. Each keeps its own place; the log is shared.
-/

import SheetLint.Diagnosis

namespace SheetLint.Diagnosis

inductive Step where
  | start (output : String)
  | next (index : Nat)
  | drain (index : Nat)

/-- This is what one step shows; every answer ends with the lines logged in the step. -/
inductive Answer where
  | started (failures : List Failure) (length : Nat) (logs : List String)
  | drawn (item : Option Diagnostic) (length : Nat) (logs : List String)
  | drained (items : List Diagnostic) (logs : List String)
  deriving DecidableEq

/-- This is the state of a session: what is left of the outputs so far, in the order in which
they began. -/
structure Session where
  offset : Nat
  started : List Pending

namespace Session

/-- This is what is left of the output with a number, which is nothing where none has begun. -/
def pendingAt (session : Session) (index : Nat) : Pending :=
  session.started.getD index ⟨session.offset, []⟩

def step (session : Session) : Step → Answer × Session
  | .start output =>
      let diagnosis := diagnose session.offset output
      (.started diagnosis.failures diagnosis.pending.length diagnosis.logs,
        { session with started := session.started ++ [diagnosis.pending] })
  | .next index =>
      let (item, logs, rest) := (session.pendingAt index).next
      (.drawn item rest.length logs, { session with started := session.started.set index rest })
  | .drain index =>
      let (items, logs) := (session.pendingAt index).drain
      (.drained items logs,
        { session with started := session.started.set index ⟨session.offset, []⟩ })

/-- This function answers the steps in turn. -/
def run (session : Session) : List Step → List Answer
  | [] => []
  | first :: steps =>
      let (answer, session) := session.step first
      answer :: session.run steps

end Session

end SheetLint.Diagnosis
