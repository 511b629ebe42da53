/-
This file holds the documents to be linted.
-/

import SheetLint.Host
import SheetLint.LintError

namespace SheetLint

/-- This is a document: its text and, when it was saved, its path. The text may be newer than what
the file holds. -/
structure Document where
  path : Option Path
  text : String
  deriving DecidableEq, Repr

namespace Document

def ofFile (host : Host) (path : Path) : Except LintError Document := do
  let text ← (host.readText path).mapError LintError.file
  return ⟨some path, text⟩

def inMemory (text : String) : Document :=
  ⟨none, text⟩

end Document

end SheetLint
