/-
This file moves through a YAML text and keeps count of lines and columns.
-/

namespace SheetLint.Yaml

/-- This is a place in a text. All three numbers count characters or lines from zero. -/
structure Mark where
  index : Nat
  line : Nat
  column : Nat
  deriving DecidableEq, Repr

/-- This is the rest of a text with the place where it starts. -/
structure Cursor where
  rest : List Char
  mark : Mark

def isBreak (character : Char) : Bool :=
  character == '\n' || character == '\u000d' || character == '\u0085' ||
    character == '\u2028' || character == '\u2029'

def isGap (character : Char) : Bool :=
  character == ' ' || character == '\t'

namespace Cursor

/-- This is the character at a distance, unless the text ends before it. -/
def peekAt (cursor : Cursor) (distance : Nat) : Option Char :=
  (cursor.rest.drop distance).head?

def peek (cursor : Cursor) : Option Char :=
  cursor.rest.head?

def isAt (cursor : Cursor) (character : Char) : Bool :=
  cursor.peek == some character

/-- This test holds when a gap, a line break or the end of the text stands at a distance. -/
def blankAt (cursor : Cursor) (distance : Nat) : Bool :=
  match cursor.peekAt distance with
  | none => true
  | some character => isGap character || isBreak character

def breakAt (cursor : Cursor) (distance : Nat) : Bool :=
  ((cursor.peekAt distance).map isBreak).getD false

def gapAt (cursor : Cursor) (distance : Nat) : Bool :=
  ((cursor.peekAt distance).map isGap).getD false

def atEnd (cursor : Cursor) : Bool :=
  cursor.rest.isEmpty

/-- This function goes over one character that is no line break. -/
def advance (cursor : Cursor) : Cursor :=
  ⟨cursor.rest.drop 1, { cursor.mark with
    index := cursor.mark.index + 1
    column := cursor.mark.column + 1 }⟩

/-- This function goes over some characters that are no line breaks. -/
def advanceBy (cursor : Cursor) (count : Nat) : Cursor :=
  ⟨cursor.rest.drop count, { cursor.mark with
    index := cursor.mark.index + count
    column := cursor.mark.column + count }⟩

/-- This function goes over a line break, if there is one, and gives what it stands for. -/
def takeBreak (cursor : Cursor) : List Char × Cursor :=
  let past (count : Nat) : Cursor :=
    ⟨cursor.rest.drop count, ⟨cursor.mark.index + count, cursor.mark.line + 1, 0⟩⟩
  match cursor.rest with
  | '\u000d' :: '\n' :: _ => (['\n'], past 2)
  | '\u2028' :: _ => (['\u2028'], past 1)
  | '\u2029' :: _ => (['\u2029'], past 1)
  | character :: _ => if isBreak character then (['\n'], past 1) else ([], cursor)
  | [] => ([], cursor)

/-- This function goes over the characters that pass. -/
def skipWhile (cursor : Cursor) (passes : Char → Bool) : Cursor :=
  cursor.advanceBy (cursor.rest.takeWhile passes).length

/-- This is the text before the first character that does not pass. -/
def textWhile (cursor : Cursor) (passes : Char → Bool) : List Char :=
  cursor.rest.takeWhile passes

/-- This function goes to the end of a comment, where one starts. -/
def skipComment (cursor : Cursor) : Cursor :=
  if cursor.isAt '#' then cursor.skipWhile fun character => !isBreak character else cursor

/-- This test holds where three such characters stand alone at the start of a line. -/
def isDocumentMark (cursor : Cursor) (character : Char) : Bool :=
  cursor.mark.column == 0 && cursor.rest.take 3 == [character, character, character] &&
    cursor.blankAt 3

/-- This test holds where a document starts or ends. -/
def isBoundary (cursor : Cursor) : Bool :=
  cursor.isDocumentMark '-' || cursor.isDocumentMark '.'

end Cursor

end SheetLint.Yaml
