/-
This file holds the environment variables of a process.
-/

namespace SheetLint

/-- These are names with values; no name stands twice. -/
abbrev Environment := List (String × String)

namespace Environment

/-- This function gives a variable its value. -/
def set (name value : String) : Environment → Environment
  | [] => [(name, value)]
  | entry :: entries =>
      if entry.1 = name then (name, value) :: entries else entry :: set name value entries

/-- This function gives many variables their values; what they had before is lost. -/
def setAll (environment added : Environment) : Environment :=
  added.foldl (fun environment entry => environment.set entry.1 entry.2) environment

end Environment

end SheetLint
