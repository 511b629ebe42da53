/-
This file holds the report that the style sheet linter prints for one source.
-/

namespace SheetLint

/-- This is a remark about the linter's configuration: an invalid option or a deprecation. -/
structure Feedback where
  text : String
  deriving DecidableEq, Repr

/-- This is one problem in the source. Lines and columns count from one. -/
structure Warning where
  line : Int64
  column : Int64
  severity : String
  rule : String
  text : String
  deriving DecidableEq

structure Report where
  invalidOptions : List Feedback
  deprecations : List Feedback
  warnings : List Warning
  deriving DecidableEq

end SheetLint
