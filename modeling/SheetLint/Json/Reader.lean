/-
This file reads JSON texts. Reading is recursive on the number of brackets that may still be
opened, and inside one bracket on the length of the text.
-/

import SheetLint.Json.Number

namespace SheetLint.Json

open SheetLint.Text

/-- This test holds for the four characters that JSON allows between tokens. -/
def isGap (character : Char) : Bool :=
  character == ' ' || character == '\n' || character == '\t' || character == '\u000d'

def skipGaps (text : List Char) : List Char :=
  text.dropWhile isGap

/-- This function reads the rest of one of the three words. -/
def readWord : List Char → Value → List Char → Reading Value
  | [], value, text => .ok (value, text)
  | _ :: _, _, [] => .error (Fault.before .endInValue [])
  | letter :: letters, value, character :: rest =>
      if letter == character then readWord letters value rest
      else .error (Fault.onto .expectedWord (character :: rest))

def hexValue? (character : Char) : Option Nat :=
  if isHexDigit character then some (digitValue character) else none

/-- This function reads four hexadecimal digits. The failure lies behind the four bytes, or at the
end of the text when there are fewer. -/
def readUnit (text : List Char) : Reading Nat :=
  let failure : Reading Nat :=
    if byteCount text < 4 then .error ⟨.endInString, 0⟩
    else .error ⟨.invalidEscape, byteCount text - 4⟩
  match text with
  | first :: second :: third :: fourth :: rest =>
      match hexValue? first, hexValue? second, hexValue? third, hexValue? fourth with
      | some a, some b, some c, some d => .ok (a * 4096 + b * 256 + c * 16 + d, rest)
      | _, _, _, _ => failure
  | _ => failure

def isLeading (unit : Nat) : Bool :=
  0xD800 ≤ unit && unit ≤ 0xDBFF

def isTrailing (unit : Nat) : Bool :=
  0xDC00 ≤ unit && unit ≤ 0xDFFF

/-- This function reads the second half of a surrogate pair. -/
def readSecondUnit (leading : Nat) : List Char → Reading Char
  | [] => .error (Fault.before .endInString [])
  | '\\' :: [] => .error (Fault.before .endInString [])
  | '\\' :: 'u' :: rest =>
      match readUnit rest with
      | .error fault => .error fault
      | .ok (trailing, rest) =>
          if isTrailing trailing then
            .ok (Char.ofNat (0x10000 + (leading - 0xD800) * 1024 + (trailing - 0xDC00)), rest)
          else .error (Fault.before .loneSurrogate rest)
  | '\\' :: other => .error (Fault.onto .unfinishedSurrogatePair other)
  | other => .error (Fault.onto .unfinishedSurrogatePair other)

/-- This function reads an escape sequence behind its backslash. -/
def readEscape : List Char → Reading Char
  | [] => .error (Fault.before .endInString [])
  | '"' :: rest => .ok ('"', rest)
  | '\\' :: rest => .ok ('\\', rest)
  | '/' :: rest => .ok ('/', rest)
  | 'b' :: rest => .ok ('\u0008', rest)
  | 'f' :: rest => .ok ('\u000c', rest)
  | 'n' :: rest => .ok ('\n', rest)
  | 'r' :: rest => .ok ('\u000d', rest)
  | 't' :: rest => .ok ('\t', rest)
  | 'u' :: rest =>
      match readUnit rest with
      | .error fault => .error fault
      | .ok (unit, rest) =>
          if isTrailing unit then .error (Fault.before .loneSurrogate rest)
          else if isLeading unit then readSecondUnit unit rest
          else .ok (Char.ofNat unit, rest)
  | other => .error (Fault.onto .invalidEscape other)

theorem readUnit_shorter {text left : List Char} {unit : Nat}
    (read : readUnit text = .ok (unit, left)) : left.length < text.length := by
  unfold readUnit at read
  repeat' split at read
  all_goals simp_all
  all_goals omega

theorem readSecondUnit_shorter {leading : Nat} {text left : List Char} {character : Char}
    (read : readSecondUnit leading text = .ok (character, left)) :
    left.length < text.length := by
  unfold readSecondUnit at read
  split at read
  · simp at read
  · simp at read
  · rename_i rest
    cases unit : readUnit rest with
    | error fault => simp [unit] at read
    | ok found =>
        have shorter := @readUnit_shorter rest found.2 found.1 unit
        simp only [unit] at read
        split at read
        · simp only [Except.ok.injEq, Prod.mk.injEq] at read
          simp only [List.length_cons, ← read.2]
          omega
        · simp at read
  · simp at read
  · simp at read

theorem readEscape_shorter {text left : List Char} {character : Char}
    (read : readEscape text = .ok (character, left)) : left.length < text.length := by
  unfold readEscape at read
  split at read
  case h_10 rest =>
    cases unit : readUnit rest with
    | error fault => simp [unit] at read
    | ok found =>
        have shorter := @readUnit_shorter rest found.2 found.1 unit
        simp only [unit] at read
        split at read
        · simp at read
        · split at read
          · have further := readSecondUnit_shorter read
            simp only [List.length_cons]
            omega
          · simp only [Except.ok.injEq, Prod.mk.injEq] at read
            simp only [List.length_cons, ← read.2]
            omega
  all_goals simp at read
  all_goals simp [← read.2]

/-- This function reads a string behind its opening quote; the characters read so far are kept in
reverse. -/
def readCharacters (decoded : List Char) : List Char → Reading String
  | [] => .error (Fault.before .endInString [])
  | '"' :: rest => .ok (String.ofList decoded.reverse, rest)
  | '\\' :: rest =>
      match _found : readEscape rest with
      | .error fault => .error fault
      | .ok (character, left) => readCharacters (character :: decoded) left
  | character :: rest =>
      if character.toNat < 0x20 then .error (Fault.before .controlCharacter rest)
      else readCharacters (character :: decoded) rest
  termination_by text => text.length
  decreasing_by
    · have shorter := readEscape_shorter _found
      simp only [List.length_cons]
      omega
    · simp

def readString (text : List Char) : Reading String :=
  readCharacters [] text

/-- This function reads the items of a list behind the first one. -/
def readMoreItems (readItem : List Char → Reading Value) :
    Nat → List Value → List Char → Reading (List Value)
  | 0, _, text => .error (Fault.before .endInList text)
  | fuel + 1, items, text =>
      match skipGaps text with
      | [] => .error (Fault.before .endInList [])
      | ']' :: rest => .ok (items.reverse, rest)
      | ',' :: rest =>
          match skipGaps rest with
          | [] => .error (Fault.before .endInValue [])
          | ']' :: later => .error (Fault.before .trailingComma later)
          | next =>
              match readItem next with
              | .error fault => .error fault
              | .ok (item, left) => readMoreItems readItem fuel (item :: items) left
      | other => .error (Fault.onto .expectedListCommaOrEnd other)

/-- This function reads the items of a list behind its bracket. -/
def readItems (readItem : List Char → Reading Value) (text : List Char) :
    Reading (List Value) :=
  match skipGaps text with
  | [] => .error (Fault.before .endInList [])
  | ']' :: rest => .ok ([], rest)
  | next =>
      match readItem next with
      | .error fault => .error fault
      | .ok (item, left) => readMoreItems readItem next.length [item] left

/-- This function reads a key, a colon and a value; the text starts behind the opening quote. -/
def readEntry (readItem : List Char → Reading Value) (text : List Char) :
    Reading (String × Value) :=
  match readString text with
  | .error fault => .error fault
  | .ok (key, rest) =>
      match skipGaps rest with
      | [] => .error (Fault.before .endInObject [])
      | ':' :: rest =>
          match readItem rest with
          | .error fault => .error fault
          | .ok (value, left) => .ok ((key, value), left)
      | other => .error (Fault.onto .expectedColon other)

/-- This function reads the entries of an object behind the first one. -/
def readMoreEntries (readItem : List Char → Reading Value) :
    Nat → List (String × Value) → List Char → Reading (List (String × Value))
  | 0, _, text => .error (Fault.before .endInObject text)
  | fuel + 1, entries, text =>
      match skipGaps text with
      | [] => .error (Fault.before .endInObject [])
      | '\u007d' :: rest => .ok (entries, rest)
      | ',' :: rest =>
          match skipGaps rest with
          | [] => .error (Fault.before .endInValue [])
          | '\u007d' :: later => .error (Fault.before .trailingComma later)
          | '"' :: rest =>
              match readEntry readItem rest with
              | .error fault => .error fault
              | .ok (entry, left) =>
                  readMoreEntries readItem fuel (put entry.1 entry.2 entries) left
          | other => .error (Fault.onto .keyNotString other)
      | other => .error (Fault.onto .expectedObjectCommaOrEnd other)

/-- This function reads the entries of an object behind its brace. -/
def readEntries (readItem : List Char → Reading Value) (text : List Char) :
    Reading (List (String × Value)) :=
  match skipGaps text with
  | [] => .error (Fault.before .endInObject [])
  | '\u007d' :: rest => .ok ([], rest)
  | '"' :: rest =>
      match readEntry readItem rest with
      | .error fault => .error fault
      | .ok (entry, left) => readMoreEntries readItem rest.length [entry] left
  | other => .error (Fault.onto .keyNotString other)

/-- This function gives the value that was read the place it has among all values. -/
def wrap {Inner : Type} (constructor : Inner → Value) : Reading Inner → Reading Value
  | .error fault => .error fault
  | .ok (inner, rest) => .ok (constructor inner, rest)

/-- This function reads a value whose first character it looks at; the two arguments read the
inside of a list and of an object. -/
def readBy (list object : List Char → Reading Value) (text : List Char) : Reading Value :=
  match skipGaps text with
  | [] => .error (Fault.before .endInValue [])
  | 'n' :: rest => readWord ['u', 'l', 'l'] .null rest
  | 't' :: rest => readWord ['r', 'u', 'e'] (.boolean true) rest
  | 'f' :: rest => readWord ['a', 'l', 's', 'e'] (.boolean false) rest
  | '-' :: rest => wrap .number (readNumber false rest)
  | '"' :: rest => wrap .text (readString rest)
  | '[' :: rest => list rest
  | '\u007b' :: rest => object rest
  | character :: rest =>
      if isDigit character then wrap .number (readNumber true (character :: rest))
      else .error (Fault.onto .expectedValue (character :: rest))

/-- This is the number of brackets that may be open at once. -/
def depthLimit : Nat := 127

/-- This function reads a value in which that many brackets may be open at once. -/
def readValue : Nat → List Char → Reading Value
  | 0 =>
      let refuse := fun rest => .error (Fault.before .tooDeep rest)
      readBy refuse refuse
  | depth + 1 =>
      readBy (fun rest => wrap .sequence (readItems (readValue depth) rest))
        (fun rest => wrap .mapping (readEntries (readValue depth) rest))

/-- This function makes sure that nothing but gaps follows. -/
def readEnd {Result : Type} : Reading Result → Except Fault Result
  | .error fault => .error fault
  | .ok (result, rest) =>
      match skipGaps rest with
      | [] => .ok result
      | other => .error (Fault.onto .trailingCharacters other)

/-- This function reads a text that consists of one value. -/
def read (text : List Char) : Except Fault Value :=
  readEnd (readValue depthLimit text)

/-- This function reads a text that consists of one list. Another kind of value is read as far as
it is a scalar and then refused. -/
def readList (text : List Char) : Except Fault (List Value) :=
  let refuse (value : Value) (rest : List Char) : Fault :=
    Fault.before (.misfit (.kind value.found "a sequence")) rest
  match skipGaps text with
  | '[' :: rest => readEnd (readItems (readValue (depthLimit - 1)) rest)
  | '\u007b' :: rest => .error (refuse (.mapping []) ('\u007b' :: rest))
  | other =>
      match readValue 0 other with
      | .error fault => .error fault
      | .ok (value, rest) => .error (refuse value rest)

end SheetLint.Json
