/-
This file measures texts in bytes.
-/

namespace SheetLint.Text

/-- This is the number of bytes of a text. -/
def byteCount (text : List Char) : Nat :=
  text.foldl (fun count character => count + character.utf8Size) 0

end SheetLint.Text
