/-
This file describes what a decoder met where the data it reads should have held something else.
-/

import SheetLint.Text.Quoted

namespace SheetLint

/-- This is a value met by a decoder, as far as a message shows it. -/
inductive Found where
  /-- The null value under the name that the format has for it. -/
  | null (name : String)
  | boolean (value : Bool)
  | integer (value : Int)
  /-- A floating point number in the format's own digits. -/
  | floating (digits : String)
  | text (value : String)
  | sequence
  | mapping
  deriving DecidableEq, Repr

def Found.message : Found → String
  | .null name => name
  | .boolean true => "boolean `true`"
  | .boolean false => "boolean `false`"
  | .integer value => "integer `" ++ toString value ++ "`"
  | .floating digits => "floating point `" ++ digits ++ "`"
  | .text value => "string " ++ Text.quoted value
  | .sequence => "sequence"
  | .mapping => "map"

/-- This is a reason why a value does not fit the place it stands in. -/
inductive Misfit where
  /-- The value is of another kind than the place needs. -/
  | kind (found : Found) (expected : String)
  /-- The value is of the right kind but out of bounds. -/
  | value (found : Found) (expected : String)
  | missingField (name : String)
  | duplicateField (name : String)
  | length (found : Nat) (expected : String)
  | unknownVariant (name : String) (known : List String)
  deriving DecidableEq, Repr

def Misfit.message : Misfit → String
  | .kind found expected => "invalid type: " ++ found.message ++ ", expected " ++ expected
  | .value found expected => "invalid value: " ++ found.message ++ ", expected " ++ expected
  | .missingField name => "missing field `" ++ name ++ "`"
  | .duplicateField name => "duplicate field `" ++ name ++ "`"
  | .length found expected => "invalid length " ++ toString found ++ ", expected " ++ expected
  | .unknownVariant name known =>
      "unknown variant `" ++ name ++ "`, expected " ++
        " or ".intercalate (known.map fun choice => "`" ++ choice ++ "`")

end SheetLint
