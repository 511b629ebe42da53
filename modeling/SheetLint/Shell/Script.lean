/-
This file holds the commands of shell scripts. Scripts are made of bytes, and every character of
their texts stands for one byte.
-/

import SheetLint.FileTree

namespace SheetLint.Shell

/-- This is a text whose characters stand for bytes. -/
abbrev Octets := List Char

def octetsOfBytes (bytes : Bytes) : Octets :=
  bytes.map fun byte => Char.ofNat byte.toNat

def bytesOfOctets (octets : Octets) : Bytes :=
  octets.map fun character => character.toNat.toUInt8

def octetsOfString (text : String) : Octets :=
  octetsOfBytes text.toUTF8.toList

/-- This is what happens to the value of a parameter before it is used. A flag tells whether an
empty value counts as missing, or whether as much as possible is cut away. -/
inductive Expansion where
  | value
  | length
  | orElse (emptyToo : Bool)
  | orAssign (emptyToo : Bool)
  | orStop (emptyToo : Bool)
  | ifGiven (emptyToo : Bool)
  | withoutStart (longest : Bool)
  | withoutEnd (longest : Bool)
  deriving DecidableEq, Repr

/-- This is a part of a word. The result of a quoted part is never split. -/
inductive Part where
  | text (quoted : Bool) (content : Octets)
  | parameter (quoted : Bool) (name : Octets) (expansion : Expansion) (operand : List Part)
  /-- The output of a script. -/
  | output (quoted : Bool) (script : Octets)
  /-- The result of a calculation. -/
  | arithmetic (quoted : Bool) (content : List Part)

abbrev Word := List Part

/-- This is a change of where input comes from and where output goes. -/
inductive Redirection where
  | input (word : Word)
  | output (descriptor : Nat) (append : Bool) (word : Word)
  | copy (descriptor : Nat) (word : Word)
  /-- The text behind the line; texts are numbered in their order. -/
  | here (number : Nat)

inductive Command where
  | nothing
  /-- A command that is called by its name in some line of the script. -/
  | simple (line : Nat) (assignments : List (Octets × Word)) (words : List Word)
      (redirections : List Redirection)
  | sequence (first second : Command)
  | both (first second : Command)
  | either (first second : Command)
  | negated (command : Command)
  | pipe (first second : Command)
  | subshell (body : Command)
  | redirected (body : Command) (redirections : List Redirection)
  | branch (condition yes no : Command)
  /-- The loop goes on while the condition succeeds, or while it fails when it is inverted. -/
  | loop (condition body : Command) (inverted : Bool)
  | each (name : Octets) (words : Option (List Word)) (body : Command)
  | select (word : Word) (cases : List (List Word × Command))
  | function (name : Octets) (body : Command)

end SheetLint.Shell
