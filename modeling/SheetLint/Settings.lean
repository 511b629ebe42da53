/-
This file holds what a settings file can say. Everything may be left out.
-/

import SheetLint.Environment
import SheetLint.Found
import SheetLint.StyleBlock

namespace SheetLint

structure Settings where
  executable : Option String
  arguments : Option (List String)
  selector : Option String
  output : Option String
  workingDirectory : Option String
  styleMarker : Option String
  missingBlock : Option StyleBlock.MissingPolicy
  environment : Option Environment
  deriving DecidableEq

namespace Settings

/-- These are the settings of a file that says nothing. -/
def none : Settings where
  executable := .none
  arguments := .none
  selector := .none
  output := .none
  workingDirectory := .none
  styleMarker := .none
  missingBlock := .none
  environment := .none

/-- This is the policy with a name. -/
def policyOfName (name : String) : Except Misfit StyleBlock.MissingPolicy :=
  if name = "zero" then .ok .zero
  else if name = "fail" then .ok .fail
  else .error (.unknownVariant name ["zero", "fail"])

end Settings

end SheetLint
