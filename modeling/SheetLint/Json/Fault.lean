/-
This file names the ways in which a text can fail to be JSON and finds the place of a failure.
-/

import SheetLint.Found
import SheetLint.Text.Measure

namespace SheetLint.Json

open SheetLint.Text (byteCount)

/-- This is a reason why a text is not the JSON that is asked for. -/
inductive Cause where
  | endInList
  | endInObject
  | endInString
  | endInValue
  | expectedColon
  | expectedListCommaOrEnd
  | expectedObjectCommaOrEnd
  | expectedWord
  | expectedValue
  | invalidEscape
  | invalidNumber
  | numberOutOfRange
  | controlCharacter
  | keyNotString
  | loneSurrogate
  | unfinishedSurrogatePair
  | trailingComma
  | trailingCharacters
  | tooDeep
  | misfit (reason : Misfit)
  deriving DecidableEq, Repr

def Cause.message : Cause → String
  | .endInList => "EOF while parsing a list"
  | .endInObject => "EOF while parsing an object"
  | .endInString => "EOF while parsing a string"
  | .endInValue => "EOF while parsing a value"
  | .expectedColon => "expected `:`"
  | .expectedListCommaOrEnd => "expected `,` or `]`"
  | .expectedObjectCommaOrEnd => "expected `,` or `\x7d`"
  | .expectedWord => "expected ident"
  | .expectedValue => "expected value"
  | .invalidEscape => "invalid escape"
  | .invalidNumber => "invalid number"
  | .numberOutOfRange => "number out of range"
  | .controlCharacter =>
      "control character (\\u0000-\\u001F) found while parsing a string"
  | .keyNotString => "key must be a string"
  | .loneSurrogate => "lone leading surrogate in hex escape"
  | .unfinishedSurrogatePair => "unexpected end of hex escape"
  | .trailingComma => "trailing comma"
  | .trailingCharacters => "trailing characters"
  | .tooDeep => "recursion limit exceeded"
  | .misfit reason => reason.message

/-- This is a failure together with the number of bytes that were not read yet. -/
structure Fault where
  cause : Cause
  unread : Nat
  deriving DecidableEq, Repr

/-- This is a failure that is noticed behind what was read, with `rest` still to come. -/
def Fault.before (cause : Cause) (rest : List Char) : Fault :=
  ⟨cause, byteCount rest⟩

/-- This is a failure that points at the first byte of `rest`. -/
def Fault.onto (cause : Cause) (rest : List Char) : Fault :=
  ⟨cause, byteCount rest - 1⟩

/-- This is a place in a text: lines count from one and columns in bytes. -/
structure Position where
  line : Nat
  column : Nat
  deriving DecidableEq, Repr

/-- This function moves a position over the first `count` bytes of a text. -/
def Position.advance (position : Position) : Nat → List Char → Position
  | _, [] => position
  | count, character :: rest =>
      if count = 0 then position
      else if character == '\n' then Position.advance ⟨position.line + 1, 0⟩ (count - 1) rest
      else
        Position.advance ⟨position.line, position.column + min count character.utf8Size⟩
          (count - character.utf8Size) rest

/-- This is the place of a failure in the whole text. -/
def Fault.position (fault : Fault) (text : List Char) : Position :=
  Position.advance ⟨1, 0⟩ (byteCount text - fault.unread) text

/-- This is the failure with its place. -/
def Fault.message (fault : Fault) (text : List Char) : String :=
  let position := fault.position text
  fault.cause.message ++ " at line " ++ toString position.line ++ " column " ++
    toString position.column

end SheetLint.Json
