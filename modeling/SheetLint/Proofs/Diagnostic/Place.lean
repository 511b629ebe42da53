/-
This file says that the places of diagnostics are those of an exact computation, however large the
numbers are.
-/

import Mathlib.Algebra.Group.Int.Defs
import Mathlib.Algebra.Group.Nat.Defs
import SheetLint.Diagnosis
import SheetLint.Rendering

namespace SheetLint

/-- The difference of numbers of 64 bits is exact, up to the bounds. -/
theorem toInt_saturatingSub (left right : Int64) :
    (saturatingSub left right).toInt =
      max (-2 ^ 63) (min (2 ^ 63 - 1) (left.toInt - right.toInt)) := by
  rw [saturatingSub, Int64.toInt_minValue, Int64.toInt_maxValue]
  exact Int64.toInt_ofInt_of_le (by omega) (by omega)

theorem toInt_signedOffset (offset : Nat) :
    (signedOffset offset).toInt = min (offset : Int) (2 ^ 63 - 1) := by
  have largest : Int64.maxValue.toInt.toNat = 2 ^ 63 - 1 := by decide
  rw [signedOffset, largest]
  split
  · rw [Int64.toInt_ofNat_of_lt (by omega)]
    omega
  · rw [Int64.toInt_maxValue]
    omega

namespace Warning

variable (warning : Warning)

/-- This is the place of a warning on the integers. It is negative before the style block. -/
def exactPlace (offset : Nat) : Axis → Int
  | .line => warning.line.toInt - offset - 1
  | .column => warning.column.toInt - 1

/-- This is the log line about a coordinate whose exact place is negative. -/
def notesOutside (offset : Nat) (axis : Axis) : List String :=
  if warning.exactPlace offset axis < 0 then [warning.clampNote axis] else []

/-- Of a negative place only the sign counts. -/
theorem clamp_of_agree (axis : Axis) (place : Int64) (exact : Int)
    (agree : place.toInt = exact ∨ place.toInt < 0 ∧ exact < 0) :
    warning.clamp axis place =
      (exact.toNat, if exact < 0 then [warning.clampNote axis] else []) := by
  by_cases negative : exact < 0
  · have below : place.toInt < 0 := by omega
    rw [clamp, if_pos below, if_pos negative, Int.toNat_of_nonpos (by omega)]
  · have same : place.toInt = exact := by omega
    rw [clamp, same, if_neg negative, if_neg negative]

/-- The bounds of 64 bits do not show in a diagnostic or in its log lines. -/
theorem diagnose_eq (offset : Nat) :
    warning.diagnose offset =
      (⟨(warning.exactPlace offset .line).toNat, (warning.exactPlace offset .column).toNat,
        warning.severity, warning.rule, warning.message⟩,
        warning.notesOutside offset .line ++ warning.notesOutside offset .column) := by
  have one : (1 : Int64).toInt = 1 := by decide
  have lineBelow := warning.line.toInt_lt
  have columnAbove := warning.column.le_toInt
  have columnBelow := warning.column.toInt_lt
  -- with an offset beyond the bound every line is negative, and so it is with the bound itself
  have line := warning.clamp_of_agree .line
    (saturatingSub (saturatingSub warning.line (signedOffset offset)) 1)
    (warning.exactPlace offset .line) (by
      rw [toInt_saturatingSub, toInt_saturatingSub, toInt_signedOffset, one, exactPlace]
      omega)
  have column := warning.clamp_of_agree .column (saturatingSub warning.column 1)
    (warning.exactPlace offset .column) (by
      rw [toInt_saturatingSub, one, exactPlace]
      omega)
  rw [diagnose, line, column, notesOutside, notesOutside]

end Warning

namespace Rendering

open SheetLint.Terminal

/-- This is a place as people are told it, with numbers from one. -/
def placeText (file : String) (line column : Int) : String :=
  file ++ ":" ++ toString line ++ ":" ++ toString column

/-- The place stands in the line for a diagnostic behind the mark of its severity. -/
theorem diagnosticLine_eq (coloured : Bool) (file : String) (diagnostic : Diagnostic) :
    ∃ severity, diagnosticLine coloured file diagnostic =
      severity ++ " " ++
        (let place := placeText file (diagnostic.line + 1) (diagnostic.column + 1)
        if coloured then bold place else place) ++
        " ❲" ++ diagnostic.rule ++ "❳ — " ++ diagnostic.message :=
  ⟨_, rfl⟩

end Rendering

/-- Counting from one stays within words of 64 bits. -/
theorem toNat_ofNat_add_one {number : Nat} (bound : number ≤ 2 ^ 63 - 1) :
    (UInt64.ofNat number + 1).toNat = number + 1 := by
  have one : (1 : UInt64).toNat = 1 := by decide
  rw [UInt64.toNat_add, UInt64.toNat_ofNat', one]
  omega

open SheetLint.Rendering SheetLint.Terminal in
/-- The place of a diagnostic is the exact difference, or zero when that is negative. It has at most
63 bits, so counting from one does not leave 64 bits, and it is shown counted from one. Drawing the
diagnostic logs a line for each coordinate that is negative, the line's first, and nothing else. -/
theorem Warning.next_exact (offset : Nat) (warning : Warning) (later : List Warning) :
    let line := warning.line.toInt
    let column := warning.column.toInt
    ∃ diagnostic logs,
      (Pending.mk offset (warning :: later)).next = (some diagnostic, logs, ⟨offset, later⟩) ∧
      (diagnostic.line : Int) = max 0 (line - offset - 1) ∧
      (diagnostic.column : Int) = max 0 (column - 1) ∧
      diagnostic.line ≤ 2 ^ 63 - 1 ∧ diagnostic.column ≤ 2 ^ 63 - 1 ∧
      (UInt64.ofNat diagnostic.line + 1).toNat = diagnostic.line + 1 ∧
      (UInt64.ofNat diagnostic.column + 1).toNat = diagnostic.column + 1 ∧
      (∀ coloured file, ∃ severity, diagnosticLine coloured file diagnostic =
        severity ++ " " ++
          (let place := placeText file (max 1 (line - offset)) (max 1 column)
          if coloured then bold place else place) ++
          " ❲" ++ diagnostic.rule ++ "❳ — " ++ diagnostic.message) ∧
      logs = (if line - offset - 1 < 0 then [warning.clampNote .line] else []) ++
        (if column - 1 < 0 then [warning.clampNote .column] else []) := by
  intro line column
  have lineBelow : line < 2 ^ 63 := warning.line.toInt_lt
  have columnBelow : column < 2 ^ 63 := warning.column.toInt_lt
  let diagnostic : Diagnostic := ⟨(line - offset - 1).toNat, (column - 1).toNat,
    warning.severity, warning.rule, warning.message⟩
  have next : (Pending.mk offset (warning :: later)).next = (some diagnostic,
      warning.notesOutside offset .line ++ warning.notesOutside offset .column,
      ⟨offset, later⟩) := by
    simp only [Pending.next, warning.diagnose_eq]
    rfl
  have lineBound : diagnostic.line ≤ 2 ^ 63 - 1 := by
    change (line - offset - 1).toNat ≤ _
    omega
  have columnBound : diagnostic.column ≤ 2 ^ 63 - 1 := by
    change (column - 1).toNat ≤ _
    omega
  refine ⟨diagnostic, _, next, ?_, ?_, lineBound, columnBound, toNat_ofNat_add_one lineBound,
    toNat_ofNat_add_one columnBound, ?_, rfl⟩
  · rw [Int.max_comm]
    exact Int.toNat_eq_max _
  · rw [Int.max_comm]
    exact Int.toNat_eq_max _
  · intro coloured file
    have lineShown : max 1 (line - offset) = (diagnostic.line : Int) + 1 := by
      change _ = ((line - offset - 1).toNat : Int) + 1
      omega
    have columnShown : max 1 column = (diagnostic.column : Int) + 1 := by
      change _ = ((column - 1).toNat : Int) + 1
      omega
    rw [lineShown, columnShown]
    exact diagnosticLine_eq coloured file diagnostic

end SheetLint
