/-
This file holds the notes that go to the host once for an output.
-/

import SheetLint.Outcome

namespace SheetLint

inductive Failure where
  | crashed (message : String)
  | malformed (defect : Defect)
  | invalidOptions (texts : List String)
  | deprecations (texts : List String)
  deriving DecidableEq

def Failure.message : Failure → String
  | .crashed message => "Stylelint crashed: " ++ message
  | .malformed defect => defect.message
  | .invalidOptions texts => "invalid options: " ++ "; ".intercalate texts
  | .deprecations texts => "deprecations: " ++ "; ".intercalate texts

end SheetLint
