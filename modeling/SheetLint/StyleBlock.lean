/-
This file finds the line on which a style block of a document opens.
-/

import SheetLint.Text.Blank
import SheetLint.Text.Occurrence

namespace SheetLint.StyleBlock

/-- This is the text that opens a style block unless the settings say otherwise. -/
def standardMarker : String := "<style"

/-- This is what happens to a document without a style block: it counts from its first line, or
it is refused. -/
inductive MissingPolicy where
  | zero
  | fail
  deriving DecidableEq, Repr

/-- This is the number of the first line, counted from `line`, that contains the marker. -/
def firstLineFrom (marker : List Char) (line : Nat) : List (List Char) → Option Nat
  | [] => none
  | first :: others =>
      if Text.occurs marker first then some line else firstLineFrom marker (line + 1) others

/-- This is the number of the first line that contains the marker. -/
def firstMarkerLine (text marker : String) : Option Nat :=
  firstLineFrom marker.toList 0 (Text.lines text.toList)

/-- This function applies the policy to the result of the search; there is no offset when the
document is to be refused. -/
def offset? (found : Option Nat) (policy : MissingPolicy) : Option Nat :=
  match found, policy with
  | some line, _ => some line
  | none, .zero => some 0
  | none, .fail => none

end SheetLint.StyleBlock
