/-
This file holds JSON values. Objects keep their entries in the order of first appearance.
-/

import SheetLint.Decimal.Layout
import SheetLint.Found

namespace SheetLint.Json

/-- This is a number: whole when it is written without point and exponent and fits 64 bits. -/
inductive Number where
  | whole (value : Int)
  | floating (value : Float)

inductive Value where
  | null
  | boolean (value : Bool)
  | number (value : Number)
  | text (value : String)
  | sequence (items : List Value)
  | mapping (entries : List (String × Value))

instance : Inhabited Value := ⟨.null⟩

/-- Numbers from 10 ^ -5 up to below 10 ^ 16 are written positionally. -/
def numberLayout : Decimal.Layout := ⟨-5, 15⟩

/-- This function sets an entry: a known key keeps its place and gets the new value. -/
def put (key : String) (value : Value) : List (String × Value) → List (String × Value)
  | [] => [(key, value)]
  | entry :: entries =>
      if entry.1 = key then (key, value) :: entries else entry :: put key value entries

/-- This is what a message shows of a value. -/
def Value.found : Value → Found
  | .null => .null "null"
  | .boolean value => .boolean value
  | .number (.whole value) => .integer value
  | .number (.floating value) => .floating (numberLayout.writeFloat value)
  | .text value => .text value
  | .sequence _ => .sequence
  | .mapping _ => .mapping

theorem put_of_absent (key : String) (value : Value) (entries : List (String × Value))
    (absent : ∀ entry ∈ entries, entry.1 ≠ key) :
    put key value entries = entries ++ [(key, value)] := by
  induction entries with
  | nil => rfl
  | cons entry entries inductionHypothesis =>
      have different : entry.1 ≠ key := absent entry List.mem_cons_self
      have later : ∀ entry ∈ entries, entry.1 ≠ key :=
        fun entry member => absent entry (List.mem_cons_of_mem _ member)
      simp [put, different, inductionHypothesis later]

end SheetLint.Json
