/-
This file holds selectors, which say by scope names which documents are linted.
-/

import SheetLint.Path
import SheetLint.Text.Blank

namespace SheetLint

abbrev ScopeName := List Char

/-- This is one way to be selected: all included names and no whole excluded group. -/
structure Alternative where
  included : List ScopeName
  excluded : List (List ScopeName)
  deriving DecidableEq, Repr

/-- This is the alternative with one more word: a dash opens a group, and any other word joins the
group that was opened last or, before the first dash, the included names. -/
def Alternative.extend (alternative : Alternative) (word : ScopeName) : Alternative :=
  if word = ['-'] then { alternative with excluded := alternative.excluded ++ [[]] }
  else
    match alternative.excluded.getLast? with
    | some group =>
        { alternative with excluded := alternative.excluded.dropLast ++ [group ++ [word]] }
    | none => { alternative with included := alternative.included ++ [word] }

structure Selector where
  alternatives : List Alternative
  deriving DecidableEq, Repr

namespace Selector

/-- These are the style sheet sources outside of attribute values. -/
def standard : String :=
  "source.css - meta.attribute-with-value, source.sass, source.scss, source.less, source.sss"

/-- This function reads a piece between commas word by word. A piece that includes nothing selects
nothing, and a group without names excludes nothing. -/
def parseAlternative? (piece : List Char) : Option Alternative :=
  let read := (Text.words piece).foldl Alternative.extend ⟨[], []⟩
  if read.included.isEmpty then none
  else some { read with excluded := read.excluded.filter fun group => !group.isEmpty }

def ofCharacters (text : List Char) : Selector :=
  ⟨(Text.cut (· == ',') text).filterMap parseAlternative?⟩

def parse (text : String) : Selector :=
  ofCharacters text.toList

/-- This test holds when the scope is the name or extends it behind a dot. -/
def nameMatches (name scope : ScopeName) : Bool :=
  scope == name || (name ++ ['.']).isPrefixOf scope

/-- This test holds when every name matches some scope. -/
def allPresent (names scopes : List ScopeName) : Bool :=
  names.all fun name => scopes.any (nameMatches name)

end Selector

/-- This test holds when all included names are present and no excluded group is. -/
def Alternative.accepts (alternative : Alternative) (scopes : List ScopeName) : Bool :=
  Selector.allPresent alternative.included scopes &&
    !alternative.excluded.any fun group => Selector.allPresent group scopes

/-- This test holds when a document with these scopes is selected. -/
def Selector.accepts (selector : Selector) (scopes : List ScopeName) : Bool :=
  selector.alternatives.any fun alternative => alternative.accepts scopes

end SheetLint
