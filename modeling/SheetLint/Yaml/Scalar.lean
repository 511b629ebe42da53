/-
This file reads the scalars of YAML in their five styles.
-/

import SheetLint.Text.Digits
import SheetLint.Yaml.Fold

namespace SheetLint.Yaml

open SheetLint.Text

/-- This is the character that a letter behind a backslash stands for. -/
def escapeOf? : Char → Option Char
  | '0' => some '\u0000'
  | 'a' => some '\u0007'
  | 'b' => some '\u0008'
  | 't' => some '\t'
  | '\t' => some '\t'
  | 'n' => some '\n'
  | 'v' => some '\u000b'
  | 'f' => some '\u000c'
  | 'r' => some '\u000d'
  | 'e' => some '\u001b'
  | ' ' => some ' '
  | '"' => some '"'
  | '/' => some '/'
  | '\\' => some '\\'
  | 'N' => some '\u0085'
  | '_' => some '\u00a0'
  | 'L' => some '\u2028'
  | 'P' => some '\u2029'
  | _ => none

/-- This is the number of digits behind a letter that introduces a number. -/
def digitsOf? : Char → Option Nat
  | 'x' => some 2
  | 'u' => some 4
  | 'U' => some 8
  | _ => none

/-- This function reads an escape sequence at its backslash. -/
def takeEscape? (cursor : Cursor) : Option (Char × Cursor) :=
  match cursor.peekAt 1 with
  | none => none
  | some letter =>
      match escapeOf? letter with
      | some character => some (character, cursor.advanceBy 2)
      | none =>
          match digitsOf? letter with
          | none => none
          | some count =>
              let digits := (cursor.rest.drop 2).take count
              let code := ofDigits 16 digits
              if digits.length = count ∧ digits.all isHexDigit ∧
                  (code < 0xD800 ∨ (0xDFFF < code ∧ code ≤ 0x10FFFF)) then
                some (Char.ofNat code, cursor.advanceBy (2 + count))
              else none

/-- This function reads the characters of a quoted scalar up to a gap, a line break, the closing
quote or the end. The flag tells whether a line break was swallowed behind a backslash. -/
def takeQuotedRun (single : Bool) : Nat → List Char → Cursor →
    Option (List Char × Bool × Cursor)
  | 0, decoded, cursor => some (decoded, false, cursor)
  | fuel + 1, decoded, cursor =>
      match cursor.peek with
      | none => some (decoded, false, cursor)
      | some character =>
          if cursor.blankAt 0 then some (decoded, false, cursor)
          else if single && character == '\'' then
            if cursor.peekAt 1 == some '\'' then
              takeQuotedRun single fuel ('\'' :: decoded) (cursor.advanceBy 2)
            else some (decoded, false, cursor)
          else if !single && character == '"' then some (decoded, false, cursor)
          else if !single && character == '\\' then
            if cursor.breakAt 1 then some (decoded, true, cursor.advance.takeBreak.2)
            else
              match takeEscape? cursor with
              | none => none
              | some (meant, after) => takeQuotedRun single fuel (meant :: decoded) after
          else takeQuotedRun single fuel (character :: decoded) cursor.advance

/-- This function reads a quoted scalar behind its opening quote; what was read is kept in
reverse. -/
def takeQuoted (single : Bool) : Nat → List Char → Cursor → Option (String × Cursor)
  | 0, _, _ => none
  | fuel + 1, decoded, cursor =>
      if cursor.isBoundary || cursor.atEnd then none
      else
        match takeQuotedRun single (cursor.rest.length + 1) decoded cursor with
        | none => none
        | some (decoded, swallowed, cursor) =>
            if !swallowed && cursor.isAt (if single then '\'' else '"') then
              some (String.ofList decoded.reverse, cursor.advance)
            else
              let start := if swallowed then Pause.afterSwallowedBreak else Pause.none
              match Pause.extend 0 (cursor.rest.length + 1) start cursor with
              | none => none
              | some (pause, cursor) =>
                  takeQuoted single fuel (pause.text.reverse ++ decoded) cursor

/-- These characters end a plain scalar inside brackets. -/
def isFlowIndicator (character : Char) : Bool :=
  character == ',' || character == '[' || character == ']' || character == '\u007b' ||
    character == '\u007d'

/-- This function reads the characters of a plain scalar up to a gap or what ends the scalar. -/
def takePlainRun (flow : Bool) : Nat → List Char → Cursor → Option (List Char × Cursor)
  | 0, decoded, cursor => some (decoded, cursor)
  | fuel + 1, decoded, cursor =>
      match cursor.peek with
      | none => some (decoded, cursor)
      | some character =>
          let next := cursor.peekAt 1
          if cursor.blankAt 0 then some (decoded, cursor)
          else if flow && character == ':' &&
              (next.map fun following => isFlowIndicator following || following == '?').getD false
          then none
          else if character == ':' && cursor.blankAt 1 then some (decoded, cursor)
          else if flow && isFlowIndicator character then some (decoded, cursor)
          else takePlainRun flow fuel (character :: decoded) cursor.advance

/-- This function reads a plain scalar. The pause before the next run counts only when the scalar
goes on. The result tells whether the scalar was left behind a line break. -/
def takePlain (flow : Bool) (indent : Nat) : Nat → Pause → List Char → Cursor →
    Option (String × Bool × Cursor)
  | 0, _, _, _ => none
  | fuel + 1, pause, decoded, cursor =>
      let finish := some (String.ofList decoded.reverse, pause.broken, cursor)
      if cursor.isBoundary || cursor.isAt '#' then finish
      else
        match takePlainRun flow (cursor.rest.length + 1) [] cursor with
        | none => none
        | some (run, after) =>
            let joined := if run.isEmpty then decoded
              else run ++ pause.text.reverse ++ decoded
            let pause := if run.isEmpty then pause else Pause.none
            if after.atEnd || !(after.blankAt 0) then
              some (String.ofList joined.reverse, pause.broken, after)
            else
              match Pause.extend indent (after.rest.length + 1) pause after with
              | none => none
              | some (pause, later) =>
                  if !flow && later.mark.column < indent then
                    some (String.ofList joined.reverse, pause.broken, later)
                  else takePlain flow indent fuel pause joined later

/-- This tells what happens to the line breaks at the end of a block scalar. -/
inductive Chomping where
  | strip
  | clip
  | keep
  deriving DecidableEq

/-- This function reads the marks behind the sign of a block scalar: how its end is treated and
how far it is indented, in either order. -/
def takeBlockHeader? (cursor : Cursor) : Option (Chomping × Option Nat × Cursor) :=
  let chomping? : Cursor → Option Chomping := fun cursor =>
    if cursor.isAt '+' then some .keep else if cursor.isAt '-' then some .strip else none
  let digit? : Cursor → Option Nat := fun cursor =>
    match cursor.peek with
    | some character =>
        if '0' ≤ character ∧ character ≤ '9' then some (digitValue character) else none
    | none => none
  match chomping? cursor, digit? cursor with
  | some chomping, _ =>
      let after := cursor.advance
      match digit? after with
      | some 0 => none
      | some digit => some (chomping, some digit, after.advance)
      | none => some (chomping, none, after)
  | none, some 0 => none
  | none, some digit =>
      let after := cursor.advance
      match chomping? after with
      | some chomping => some (chomping, some digit, after.advance)
      | none => some (.clip, some digit, after)
  | none, none => some (.clip, none, cursor)

/-- This function takes indentation and empty lines. Without a known indentation it finds the
greatest one of the empty lines and the first other line. -/
def takeEmptyLines (indent : Option Nat) : Nat → Nat → List Char → Cursor →
    Option (Nat × List Char × Cursor)
  | 0, _, _, _ => none
  | fuel + 1, greatest, breaks, cursor =>
      let room := match indent with
        | none => cursor.rest.length
        | some bound => bound - cursor.mark.column
      let spaces := ((cursor.rest.take room).takeWhile (· == ' ')).length
      let after := cursor.advanceBy spaces
      let greatest := max greatest after.mark.column
      let inside := match indent with
        | none => true
        | some bound => after.mark.column < bound
      if inside && after.isAt '\t' then none
      else if after.breakAt 0 then
        let (line, later) := after.takeBreak
        takeEmptyLines indent fuel greatest (breaks ++ line) later
      else some (greatest, breaks, after)

/-- This function reads the lines of a block scalar. In a folded scalar a line break between two
lines that do not start with a gap is a space. -/
def takeBlockLines (literal : Bool) (indent : Nat) (chomping : Chomping) :
    Nat → List Char → Bool → List Char → List Char → Cursor → Option (String × Cursor)
  | 0, _, _, _, _, _ => none
  | fuel + 1, text, gapBefore, first, further, cursor =>
      if cursor.mark.column == indent && !cursor.atEnd then
        let gapNow := cursor.gapAt 0
        let pause :=
          if !literal && first == ['\n'] && !gapBefore && !gapNow then
            (if further.isEmpty then [' '] else []) ++ further
          else first ++ further
        let line := cursor.textWhile fun character => !isBreak character
        let (lineBreak, later) := (cursor.advanceBy line.length).takeBreak
        match takeEmptyLines (some indent) (later.rest.length + 1) 0 [] later with
        | none => none
        | some (_, breaks, next) =>
            takeBlockLines literal indent chomping fuel (text ++ pause ++ line) gapNow lineBreak
              breaks next
      else
        let ending := match chomping with
          | .strip => []
          | .clip => first
          | .keep => first ++ further
        some (String.ofList (text ++ ending), cursor)

/-- This function reads a block scalar behind its sign. The number is the indentation of the
block that it stands in, or minus one. -/
def takeBlock? (literal : Bool) (parent : Int) (cursor : Cursor) : Option (String × Cursor) := do
  let (chomping, increment, cursor) ← takeBlockHeader? cursor
  let cursor := (cursor.skipWhile isGap).skipComment
  if !cursor.atEnd && !cursor.breakAt 0 then none
  else
    let start := cursor.takeBreak.2
    let known := increment.map fun digit =>
      if 0 ≤ parent then parent.toNat + digit else digit
    let (greatest, breaks, cursor) ← takeEmptyLines known (start.rest.length + 1) 0 [] start
    let indent := known.getD (max greatest (max (parent + 1).toNat 1))
    takeBlockLines literal indent chomping (cursor.rest.length + 2) [] false [] breaks cursor

end SheetLint.Yaml
