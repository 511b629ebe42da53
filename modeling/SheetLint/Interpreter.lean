/-
This file reads the first line of a script, which names the program that reads the rest.
-/

import SheetLint.Path
import SheetLint.Text.Utf8

namespace SheetLint

/-- This is the program that reads a script, with one argument that may be given to it. -/
structure Interpreter where
  path : Path
  argument : Option String
  deriving DecidableEq, Repr

namespace Interpreter

def isGap (character : Char) : Bool :=
  character == ' ' || character == '\t'

/-- This is the text without gaps at either end. -/
def trimGaps (text : List Char) : List Char :=
  ((text.dropWhile isGap).reverse.dropWhile isGap).reverse

/-- This is the interpreter of a line behind its mark. -/
def ofLine? (line : List Char) : Option Interpreter :=
  let text := trimGaps line
  let name := text.takeWhile fun character => !isGap character
  let argument := trimGaps (text.dropWhile fun character => !isGap character)
  if name.isEmpty then none
  else some ⟨⟨name⟩, if argument.isEmpty then none else some (String.ofList argument)⟩

/-- This is the interpreter of a script. A file without the mark is no script. -/
def read? (content : List UInt8) : Option Interpreter :=
  match content with
  | 0x23 :: 0x21 :: rest =>
      match Text.decodeUtf8 (rest.takeWhile (· != 0x0A)) with
      | .ok line => ofLine? line
      | .error _ => none
  | _ => none

end Interpreter

end SheetLint
