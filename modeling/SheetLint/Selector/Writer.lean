/-
This file writes selectors in one fixed form.
-/

import SheetLint.Selector

namespace SheetLint

/-- This function writes names with spaces between them. -/
def Selector.writeNames (names : List ScopeName) : List Char :=
  [' '].intercalate names

/-- This is the included names, then every excluded group behind a dash. -/
def Alternative.write (alternative : Alternative) : List Char :=
  Selector.writeNames alternative.included ++
    alternative.excluded.flatMap fun group => [' ', '-', ' '] ++ Selector.writeNames group

/-- This is the fixed form of a selector. -/
def Selector.write (selector : Selector) : List Char :=
  [',', ' '].intercalate (selector.alternatives.map Alternative.write)

end SheetLint
