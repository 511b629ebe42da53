/-
This file reads patterns for file names and matches names against them.
-/

namespace SheetLint.Glob

/-- This is a member of a class in brackets. -/
inductive Member where
  | single (character : Char)
  | range (first last : Char)
  deriving DecidableEq, Repr

inductive Token where
  | character (character : Char)
  | anyCharacter
  | anySequence
  /-- Any number of directories. -/
  | anyDirectories
  | anyOf (members : List Member)
  | anyBut (members : List Member)
  deriving DecidableEq, Repr

abbrev Pattern := List Token

/-- This function reads the inside of brackets: a dash between two characters makes a range. -/
def readMembers : List Char → List Member
  | first :: '-' :: last :: rest => .range first last :: readMembers rest
  | character :: rest => .single character :: readMembers rest
  | [] => []

/-- This function gives the text before the first closing bracket and the text behind it. -/
def splitAtBracket : List Char → Option (List Char × List Char)
  | [] => none
  | ']' :: rest => some ([], rest)
  | character :: rest =>
      (splitAtBracket rest).map fun parts => (character :: parts.1, parts.2)

/-- This function reads a class behind its opening bracket. The first member may be a closing
bracket, and an exclamation mark at the start turns the class around. -/
def readClass? : List Char → Option (Token × List Char)
  | '!' :: first :: rest =>
      (splitAtBracket rest).map fun parts => (.anyBut (readMembers (first :: parts.1)), parts.2)
  | '!' :: [] => none
  | first :: rest =>
      (splitAtBracket rest).map fun parts => (.anyOf (readMembers (first :: parts.1)), parts.2)
  | [] => none

/-- This function reads a pattern. The flag tells whether the text begins a segment; two stars
must be a whole segment, and more are never allowed. -/
def readTokens : Nat → Bool → List Char → Option Pattern
  | 0, _, _ => some []
  | _ + 1, _, [] => some []
  | fuel + 1, _, '?' :: rest => (readTokens fuel false rest).map (.anyCharacter :: ·)
  | fuel + 1, _, '[' :: rest =>
      match readClass? rest with
      | none => none
      | some (token, left) => (readTokens fuel false left).map (token :: ·)
  | fuel + 1, starts, '*' :: rest =>
      match rest with
      | '*' :: '*' :: _ => none
      | '*' :: [] => if starts then some [.anyDirectories] else none
      | '*' :: '/' :: later =>
          if starts then (readTokens fuel true later).map (.anyDirectories :: ·) else none
      | '*' :: _ => none
      | _ => (readTokens fuel false rest).map (.anySequence :: ·)
  | fuel + 1, _, character :: rest =>
      (readTokens fuel (character == '/') rest).map (.character character :: ·)

/-- This is the pattern that a text stands for, unless it is not well formed. -/
def parse? (text : List Char) : Option Pattern :=
  readTokens text.length true text

def Member.holds (member : Member) (character : Char) : Bool :=
  match member with
  | .single other => character == other
  | .range first last => first ≤ character && character ≤ last

/-- This test holds when the token stands for this one character. -/
def Token.holds (token : Token) (character : Char) : Bool :=
  match token with
  | .character other => character == other
  | .anyCharacter => true
  | .anyOf members => members.any (·.holds character)
  | .anyBut members => !members.any (·.holds character)
  | .anySequence => false
  | .anyDirectories => false

/-- This test holds for the tokens that stand for any number of characters. -/
def Token.isSequence (token : Token) : Bool :=
  token == .anySequence || token == .anyDirectories

/-- This test holds when the rest of the pattern fits some end of the name. -/
def someEnd (fits : List Char → Bool) : List Char → Bool
  | [] => fits []
  | character :: rest => fits (character :: rest) || someEnd fits rest

/-- This test holds when the whole name fits the pattern. -/
def fits : Pattern → List Char → Bool
  | [], name => name.isEmpty
  | token :: pattern, name =>
      if token.isSequence then someEnd (fits pattern) name
      else
        match name with
        | [] => false
        | character :: rest => token.holds character && fits pattern rest

/-- This is the text of a pattern that stands for one text only. -/
def literal? : Pattern → Option (List Char)
  | [] => some []
  | .character character :: pattern => (literal? pattern).map (character :: ·)
  | _ :: _ => none

/-- This test holds for a pattern that reaches into directories. -/
def isRecursive (pattern : Pattern) : Bool :=
  pattern.contains .anyDirectories

end SheetLint.Glob
