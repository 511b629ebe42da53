/-
This file names what keeps a document from being linted.
-/

import SheetLint.OsError
import SheetLint.Path
import SheetLint.Settings.Defect
import SheetLint.Text.Utf8

namespace SheetLint

inductive LintError where
  | launch (program : String) (cause : OsError)
  | file (cause : OsError)
  | notUtf8 (fault : Text.Utf8Fault)
  | missingStyleBlock (path : Path) (marker : String)
  | settings (path : Path) (defect : Settings.Defect)
  deriving DecidableEq, Repr

def LintError.message : LintError → String
  | .launch program cause => "failed to launch '" ++ program ++ "': " ++ cause.message
  | .file cause => "I/O error: " ++ cause.message
  | .notUtf8 fault => "linter output is not valid UTF-8: " ++ fault.message
  | .missingStyleBlock path marker =>
      "no style block marker '" ++ marker ++ "' found in " ++ path.toString
  | .settings path defect => "invalid config " ++ path.toString ++ ": " ++ defect.message

end SheetLint
