/-
This file writes JSON values, either without any gaps or with one entry a line.
-/

import SheetLint.Json.Value

namespace SheetLint.Json

/-- This is the form of a character inside a string: only quotes, backslashes and control
characters are escaped. -/
def escapeCharacter (character : Char) : List Char :=
  if character == '"' then ['\\', '"']
  else if character == '\\' then ['\\', '\\']
  else if character == '\u0008' then ['\\', 'b']
  else if character == '\u000c' then ['\\', 'f']
  else if character == '\n' then ['\\', 'n']
  else if character == '\u000d' then ['\\', 'r']
  else if character == '\t' then ['\\', 't']
  else if character.toNat < 0x20 then
    ['\\', 'u', '0', '0', Nat.digitChar (character.toNat / 16),
      Nat.digitChar (character.toNat % 16)]
  else [character]

def writeString (text : String) : List Char :=
  '"' :: (text.toList.flatMap escapeCharacter ++ ['"'])

def writeInteger (value : Int) : List Char :=
  if value < 0 then '-' :: Nat.toDigits 10 value.natAbs else Nat.toDigits 10 value.natAbs

def writeNumber : Number → List Char
  | .whole value => writeInteger value
  | .floating value => (numberLayout.writeFloat value).toList

mutual

/-- This is the text of a value without gaps. -/
def compact : Value → List Char
  | .null => "null".toList
  | .boolean true => "true".toList
  | .boolean false => "false".toList
  | .number number => writeNumber number
  | .text text => writeString text
  | .sequence [] => ['[', ']']
  | .sequence (item :: items) => '[' :: (compact item ++ compactItems items)
  | .mapping [] => ['\u007b', '\u007d']
  | .mapping ((key, value) :: entries) =>
      '\u007b' :: (writeString key ++ ':' :: (compact value ++ compactEntries entries))

/-- This is the text of the items behind the first one, with the closing bracket. -/
def compactItems : List Value → List Char
  | [] => [']']
  | item :: items => ',' :: (compact item ++ compactItems items)

/-- This is the text of the entries behind the first one, with the closing brace. -/
def compactEntries : List (String × Value) → List Char
  | [] => ['\u007d']
  | (key, value) :: entries =>
      ',' :: (writeString key ++ ':' :: (compact value ++ compactEntries entries))

end

/-- This starts a new line at a depth of nesting. -/
def lineAt (depth : Nat) : List Char :=
  '\n' :: List.replicate (2 * depth) ' '

mutual

/-- This is the text of a value with one item or entry a line, indented by two spaces for every
open bracket. -/
def pretty (depth : Nat) : Value → List Char
  | .null => "null".toList
  | .boolean true => "true".toList
  | .boolean false => "false".toList
  | .number number => writeNumber number
  | .text text => writeString text
  | .sequence [] => ['[', ']']
  | .sequence (item :: items) =>
      '[' :: (lineAt (depth + 1) ++ (pretty (depth + 1) item ++ prettyItems depth items))
  | .mapping [] => ['\u007b', '\u007d']
  | .mapping ((key, value) :: entries) =>
      '\u007b' :: (lineAt (depth + 1) ++ (writeString key ++
        ':' :: ' ' :: (pretty (depth + 1) value ++ prettyEntries depth entries)))

/-- This is the text of the items behind the first one, with the closing bracket. -/
def prettyItems (depth : Nat) : List Value → List Char
  | [] => lineAt depth ++ [']']
  | item :: items =>
      ',' :: (lineAt (depth + 1) ++ (pretty (depth + 1) item ++ prettyItems depth items))

/-- This is the text of the entries behind the first one, with the closing brace. -/
def prettyEntries (depth : Nat) : List (String × Value) → List Char
  | [] => lineAt depth ++ ['\u007d']
  | (key, value) :: entries =>
      ',' :: (lineAt (depth + 1) ++ (writeString key ++
        ':' :: ' ' :: (pretty (depth + 1) value ++ prettyEntries depth entries)))

end

end SheetLint.Json
