/-
This file counts and replaces the bytes of texts.
-/

import SheetLint.Shell.Format

namespace SheetLint.Shell

/-- This is the number of words of a text, which are separated by gaps of any kind. -/
def countWords (text : Octets) : Nat :=
  let isGap (character : Char) : Bool :=
    " \t\n\u000b\u000c\u000d".toList.contains character
  (text.foldl (fun (counted : Nat × Bool) character =>
    if isGap character then (counted.1, false)
    else (if counted.2 then counted.1 else counted.1 + 1, true)) (0, false)).1

/-- These are the counts that letters ask for: lines, words and bytes. -/
def countsOf (letters : Octets) (text : Octets) : List Nat :=
  let lines := if letters.contains 'l' then [(text.filter (· == '\n')).length] else []
  let words := if letters.contains 'w' then [countWords text] else []
  let bytes := if letters.contains 'c' then [text.length] else []
  lines ++ words ++ bytes

/-- This function writes counts in a row. A single count stands alone; others are filled up to
the width of the size of a named file, or of seven. -/
def writeCounts (counts : List Nat) (size : Nat) (name : Option Octets) : Octets :=
  let texts := counts.map (Nat.toDigits 10)
  let width := if name.isSome then (Nat.toDigits 10 size).length else 7
  let fill (digits : Octets) : Octets := List.replicate (width - digits.length) ' ' ++ digits
  let row := match texts with
    | [digits] => digits
    | _ => [' '].intercalate (texts.map fill)
  let shown := match name with
    | some name => ' ' :: name
    | none => []
  row ++ shown ++ ['\n']

/-- These are the characters that a set names: escapes, ranges, and single ones. -/
def charactersOf : Nat → Octets → Octets
  | 0, _ => []
  | fuel + 1, text =>
      match text with
      | [] => []
      | '\\' :: letter :: rest =>
          if Text.isOctalDigit letter then
            let (digits, after) := takeOctal 3 (letter :: rest)
            octalOctet digits :: charactersOf fuel after
          else (escapeOf? letter).getD letter :: charactersOf fuel rest
      | first :: '-' :: last :: rest =>
          let count := last.toNat + 1 - first.toNat
          (List.range count).map (fun step => Char.ofNat (first.toNat + step)) ++
            charactersOf fuel rest
      | character :: rest => character :: charactersOf fuel rest

def setOf (text : Octets) : Octets :=
  match String.ofList text with
  | "[:upper:]" => charactersOf 4 "A-Z".toList
  | "[:lower:]" => charactersOf 4 "a-z".toList
  | "[:digit:]" => charactersOf 4 "0-9".toList
  | "[:space:]" => " \t\n\u000b\u000c\u000d".toList
  | _ => charactersOf (text.length + 1) text

/-- This function replaces every character of the first set by the one that stands in the same
place of the second set, whose last character stands for all further ones. -/
def replaceCharacters (first second : Octets) (text : Octets) : Octets :=
  let last := second.getLast?
  text.map fun character =>
    match first.idxOf? character with
    | none => character
    | some position => (second[position]?.or last).getD character

end SheetLint.Shell
