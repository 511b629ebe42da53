/-
This file holds the values of a settings file in TOML together with their places in the text.
-/

import SheetLint.Found
import SheetLint.Decimal.Layout

namespace SheetLint.Toml

/-- This is a stretch of the text. Both numbers count bytes up to the end of the text: from the
start of the stretch and from its end. -/
structure Span where
  fromStart : Nat
  fromStop : Nat
  deriving DecidableEq, Repr

structure Key where
  name : String
  span : Span
  deriving DecidableEq, Repr

/-- This tells how a table came into being, which decides what may still be added to it. -/
inductive Origin where
  /-- The table has a header of its own, or is the whole document. -/
  | header
  /-- The table was only needed on the way to the table of a header. -/
  | implied
  /-- The table was only needed on the way of a dotted key. -/
  | dotted
  /-- The table is written in braces. -/
  | inline
  deriving DecidableEq, Repr

inductive Scalar where
  | text (value : String)
  | integer (value : Int)
  | floating (value : Float)
  /-- A number that is written as a floating point number but too large for one. -/
  | overflow
  | boolean (value : Bool)
  | moment

inductive Value where
  | scalar (scalar : Scalar)
  | list (items : List (Span × Value))
  /-- The tables of a header in double brackets. -/
  | tables (items : List (Span × Value))
  | table (origin : Origin) (entries : List (Key × Span × Value))

abbrev Entries := List (Key × Span × Value)

/-- Floating point numbers are always written positionally. -/
def numberLayout : Decimal.Layout := ⟨-400, 400⟩

/-- This is what a message shows of a value. A moment counts as a table. -/
def Value.found : Value → Found
  | .scalar (.text value) => .text value
  | .scalar (.integer value) => .integer value
  | .scalar (.floating value) => .floating (numberLayout.writeFloat value)
  | .scalar .overflow => .floating "inf"
  | .scalar (.boolean value) => .boolean value
  | .scalar .moment => .mapping
  | .list _ => .sequence
  | .tables _ => .sequence
  | .table _ _ => .mapping

/-- This is the name of a kind of value. -/
def Value.kindName : Value → String
  | .scalar (.text _) => "string"
  | .scalar (.integer _) => "integer"
  | .scalar (.floating _) => "float"
  | .scalar .overflow => "float"
  | .scalar (.boolean _) => "boolean"
  | .scalar .moment => "datetime"
  | .list _ => "array"
  | .tables _ => "array"
  | .table _ _ => "table"

mutual

/-- This test holds when all numbers of a value pass. -/
def Value.allNumbers (passes : Scalar → Bool) : Value → Bool
  | .scalar scalar => passes scalar
  | .list items => allItems passes items
  | .tables items => allItems passes items
  | .table _ entries => allEntries passes entries

def allItems (passes : Scalar → Bool) : List (Span × Value) → Bool
  | [] => true
  | (_, value) :: items => value.allNumbers passes && allItems passes items

def allEntries (passes : Scalar → Bool) : Entries → Bool
  | [] => true
  | (_, _, value) :: entries => value.allNumbers passes && allEntries passes entries

end

/-- This test holds for the numbers that can be looked at, which have up to 128 bits. -/
def Scalar.isReadable : Scalar → Bool
  | .integer value => -(Nat.pow 2 127 : Int) ≤ value && value < Nat.pow 2 128
  | .overflow => false
  | _ => true

/-- This test holds for the numbers that TOML promises, which have 64 bits. -/
def Scalar.isOrdinary : Scalar → Bool
  | .integer value => -(Nat.pow 2 63 : Int) ≤ value && value < Nat.pow 2 63
  | .overflow => false
  | _ => true

end SheetLint.Toml
