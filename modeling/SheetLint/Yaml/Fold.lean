/-
This file holds the white space inside scalars of several lines until it is known what it stands
for: a space, line breaks or nothing.
-/

import SheetLint.Yaml.Cursor

namespace SheetLint.Yaml

/-- This is the white space behind some text: gaps on the same line, the first line break, the
further ones, and whether a line break was met. -/
structure Pause where
  gaps : List Char
  first : List Char
  further : List Char
  broken : Bool

namespace Pause

def none : Pause := ⟨[], [], [], false⟩

/-- This is the pause behind a line break that stands for nothing. -/
def afterSwallowedBreak : Pause := ⟨[], [], [], true⟩

/-- This is what a pause inside a text stands for: a single line break is a space, the first of
several is dropped. -/
def text (pause : Pause) : List Char :=
  if pause.broken then
    if pause.first == ['\n'] then
      if pause.further.isEmpty then [' '] else pause.further
    else pause.first ++ pause.further
  else pause.gaps

/-- This function takes up gaps and line breaks. The bound is the least column at which a tab may
stand in a later line; there is no result where one stands before it. -/
def extend (bound : Nat) : Nat → Pause → Cursor → Option (Pause × Cursor)
  | 0, pause, cursor => some (pause, cursor)
  | fuel + 1, pause, cursor =>
      match cursor.peek with
      | .none => some (pause, cursor)
      | some character =>
          if isGap character then
            if pause.broken && cursor.mark.column < bound && character == '\t' then .none
            else
              let gaps := if pause.broken then pause.gaps else pause.gaps ++ [character]
              extend bound fuel { pause with gaps } cursor.advance
          else if isBreak character then
            let (line, after) := cursor.takeBreak
            if pause.broken then
              extend bound fuel { pause with further := pause.further ++ line } after
            else extend bound fuel ⟨[], line, [], true⟩ after
          else some (pause, cursor)

end Pause

end SheetLint.Yaml
