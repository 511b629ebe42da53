/-
This file splits expanded words into fields and reads fields as patterns.
-/

import SheetLint.Glob.Pattern
import SheetLint.Shell.Script

namespace SheetLint.Shell

/-- This is a piece of an expanded word: a byte, which may be quoted, the sign that a field is
there although it may be empty, or a border between fields. -/
inductive Piece where
  | octet (quoted : Bool) (value : Char)
  | present
  | border
  deriving DecidableEq, Repr

/-- This is a field; its bytes remember whether they were quoted. -/
abbrev Field := List (Bool × Char)

def Field.text (field : Field) : Octets :=
  field.map Prod.snd

/-- This test holds for a field with a wildcard that is not quoted. -/
def Field.isPattern (field : Field) : Bool :=
  field.any fun entry => !entry.1 && (entry.2 == '*' || entry.2 == '?' || entry.2 == '[')

/-- This function cuts a field at its slashes. -/
def Field.segments : Field → List Field
  | [] => [[]]
  | (quoted, value) :: rest =>
      match Field.segments rest with
      | [] => [[(quoted, value)]]
      | segment :: later =>
          if value == '/' then [] :: segment :: later
          else ((quoted, value) :: segment) :: later

/-- This function splits pieces at borders and at separators that are not quoted. A field that is
under way is kept in reverse. -/
def splitFields (isSeparator : Char → Bool) : Option Field → List Piece → List Field
  | none, [] => []
  | some field, [] => [field.reverse]
  | current, .octet quoted value :: pieces =>
      if !quoted && isSeparator value then
        (current.map List.reverse).toList ++ splitFields isSeparator none pieces
      else splitFields isSeparator (some ((quoted, value) :: current.getD [])) pieces
  | current, .present :: pieces => splitFields isSeparator (some (current.getD [])) pieces
  | current, .border :: pieces =>
      (current.map List.reverse).toList ++ splitFields isSeparator none pieces

/-- This is the text of pieces that make up a single field; borders are gaps. -/
def joinPieces (pieces : List Piece) : Field :=
  pieces.filterMap fun piece =>
    match piece with
    | .octet quoted value => some (quoted, value)
    | .present => none
    | .border => some (true, ' ')

/-- This function reads a class behind its opening bracket, unless it has no end. -/
def classOf? (field : Field) : Option (Glob.Token × Field) :=
  let (negated, rest) := match field with
    | (false, '!') :: rest => (true, rest)
    | rest => (false, rest)
  match rest with
  | [] => none
  | first :: later =>
      let inside := first :: later.takeWhile (· != (false, ']'))
      match rest.drop inside.length with
      | [] => none
      | _ :: after =>
          let members := Glob.readMembers (Field.text inside)
          some (if negated then .anyBut members else .anyOf members, after)

/-- This is the pattern that a field stands for. Quoted bytes stand for themselves. -/
def patternOf : Nat → Field → Glob.Pattern
  | 0, _ => []
  | _ + 1, [] => []
  | fuel + 1, (false, '*') :: rest => .anySequence :: patternOf fuel rest
  | fuel + 1, (false, '?') :: rest => .anyCharacter :: patternOf fuel rest
  | fuel + 1, (false, '[') :: rest =>
      match classOf? rest with
      | some (token, after) => token :: patternOf fuel after
      | none => .character '[' :: patternOf fuel rest
  | fuel + 1, (_, value) :: rest => .character value :: patternOf fuel rest

def Field.fits (field : Field) (text : Octets) : Bool :=
  Glob.fits (patternOf (field.length + 1) field) text

/-- These are the lengths from zero to the length of a text, the ones to be tried first in front. -/
def lengths (text : Octets) (longestFirst : Bool) : List Nat :=
  let all := List.range (text.length + 1)
  if longestFirst then all.reverse else all

/-- This function cuts the start that fits a pattern off a text. -/
def Field.cutStart (field : Field) (longest : Bool) (text : Octets) : Octets :=
  match (lengths text longest).find? fun count => field.fits (text.take count) with
  | some count => text.drop count
  | none => text

/-- This function cuts the end that fits a pattern off a text. -/
def Field.cutEnd (field : Field) (longest : Bool) (text : Octets) : Octets :=
  let kept (count : Nat) : Nat := text.length - count
  match (lengths text longest).find? fun count => field.fits (text.drop (kept count)) with
  | some count => text.take (kept count)
  | none => text

end SheetLint.Shell
