/-
This file writes text between double quotes so that every character of it can be seen.
-/

import SheetLint.Text.Printable

namespace SheetLint.Text

/-- This is a number in lower-case hexadecimal digits without leading zeros. -/
def hexadecimal (number : Nat) : List Char :=
  Nat.toDigits 16 number

/-- This is the form of one character inside quotes: the usual escapes, then the code point in
braces for whatever has no visible form of its own. -/
def quotedCharacter (character : Char) : List Char :=
  if character == '\u0000' then ['\\', '0']
  else if character == '\t' then ['\\', 't']
  else if character == '\n' then ['\\', 'n']
  else if character == '\u000d' then ['\\', 'r']
  else if character == '"' then ['\\', '"']
  else if character == '\\' then ['\\', '\\']
  else if isPrintable character then [character]
  else ['\\', 'u', '\u007b'] ++ hexadecimal character.toNat ++ ['\u007d']

/-- This is the text between quotes. -/
def quoted (text : String) : String :=
  String.ofList (['"'] ++ text.toList.flatMap quotedCharacter ++ ['"'])

/-- This is a list of texts, each between quotes, in brackets. -/
def quotedList (texts : List String) : String :=
  "[" ++ ", ".intercalate (texts.map quoted) ++ "]"

end SheetLint.Text
