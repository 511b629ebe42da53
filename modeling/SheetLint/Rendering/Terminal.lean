/-
This file wraps text in the escape sequences of terminals and makes foreign ones harmless.
-/

import SheetLint.Text.Quoted

namespace SheetLint.Terminal

inductive Colour where
  | red
  | yellow
  | blue
  deriving DecidableEq, Repr

/-- This is an escape sequence with one number. -/
def escape (code : String) : String :=
  "\x1b[" ++ code ++ "m"

def Colour.code : Colour → String
  | .red => "31"
  | .yellow => "33"
  | .blue => "34"

def paint (colour : Colour) (text : String) : String :=
  escape colour.code ++ text ++ escape "39"

def bold (text : String) : String :=
  escape "1" ++ text ++ escape "0"

/-- This is a label, in bold and in its colour when colours are wanted. -/
def label (coloured : Bool) (colour : Colour) (text : String) : String :=
  if coloured then bold (paint colour text) else text

/-- This is a character as it may stand in a log. Those that steer a terminal are spelled out:
escape, bell, backspace, form feed and delete, and the second block of control characters. -/
def harmlessCharacter (character : Char) : List Char :=
  match character.toNat with
  | 0x1b => ['\\', 'x', '1', 'b']
  | 0x07 => ['\\', 'x', '0', '7']
  | 0x08 => ['\\', 'x', '0', '8']
  | 0x0c => ['\\', 'x', '0', 'c']
  | 0x7f => ['\\', 'x', '7', 'f']
  | number =>
      if 0x80 ≤ number ∧ number ≤ 0x9f then
        ['\\', 'u', '\u007b'] ++ Text.hexadecimal number ++ ['\u007d']
      else [character]

/-- This is a text with every character that steers a terminal spelled out. -/
def harmless (text : String) : String :=
  String.ofList (text.toList.flatMap harmlessCharacter)

end SheetLint.Terminal
