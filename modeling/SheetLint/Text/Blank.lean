/-
This file holds the white-space characters and the trimming and cutting of text around them.
-/

import SheetLint.Text.Ranges

namespace SheetLint.Text

/-- These are the code points of the white-space characters. -/
def blankRanges : Ranges :=
  [(0x09, 0x0D), (0x20, 0x20), (0x85, 0x85), (0xA0, 0xA0), (0x1680, 0x1680), (0x2000, 0x200A),
   (0x2028, 0x2029), (0x202F, 0x202F), (0x205F, 0x205F), (0x3000, 0x3000)]

/-- This test holds for the white-space characters. -/
def isBlank (character : Char) : Bool :=
  blankRanges.covers character.toNat

/-- This is the text without the white space at its end. -/
def trimEnd (text : List Char) : List Char :=
  (text.reverse.dropWhile isBlank).reverse

/-- This function cuts a text at every separator and keeps empty pieces. -/
def cut (isSeparator : Char → Bool) : List Char → List (List Char)
  | [] => [[]]
  | character :: rest =>
      if isSeparator character then [] :: cut isSeparator rest
      else
        match cut isSeparator rest with
        | [] => [[character]]
        | piece :: pieces => (character :: piece) :: pieces

/-- This function lists the parts of a text that lie between line feeds. -/
def lines (text : List Char) : List (List Char) :=
  cut (· == '\n') text

/-- This function lists the longest runs of characters that are not white space. -/
def words (text : List Char) : List (List Char) :=
  (cut isBlank text).filter (· ≠ [])

theorem cut_cons_separator {isSeparator : Char → Bool} {character : Char}
    (separates : isSeparator character = true) (rest : List Char) :
    cut isSeparator (character :: rest) = [] :: cut isSeparator rest := by
  simp [cut, separates]

end SheetLint.Text
