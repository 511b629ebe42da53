/-
This file says which line the search for a style block finds and which offset belongs to a text.
-/

import Mathlib.Data.List.Infix
import SheetLint.StyleBlock

namespace SheetLint.StyleBlock

/-- The line of this number holds the marker, and no line before it does. -/
structure Opens (marker : List Char) (lines : List (List Char)) (number : Nat) : Prop where
  holds : ∃ line, lines[number]? = some line ∧ marker <:+: line
  first : ∀ earlier < number, ∀ line, lines[earlier]? = some line → ¬ marker <:+: line

/-- The offset is the number of the first line with the marker. It is zero for a text without such
a line, unless the policy refuses that text. -/
def OffsetIn (text marker : String) (policy : MissingPolicy) (offset : Nat) : Prop :=
  Opens marker.toList (Text.lines text.toList) offset ∨
    policy = .zero ∧ offset = 0 ∧ ∀ line ∈ Text.lines text.toList, ¬ marker.toList <:+: line

theorem occurs_iff_isInfix (marker line : List Char) :
    Text.occurs marker line = true ↔ marker <:+: line := by
  rw [Text.occurs_iff]
  exact exists_congr fun before => exists_congr fun after => eq_comm

theorem firstLineFrom_eq (marker : List Char) (start : Nat) (lines : List (List Char)) :
    firstLineFrom marker start lines = (lines.findIdx? (Text.occurs marker)).map (· + start) := by
  induction lines generalizing start with
  | nil => rfl
  | cons line lines inductionHypothesis =>
      rw [firstLineFrom, List.findIdx?_cons]
      split
      · simp
      · rw [inductionHypothesis, Option.map_map]
        congr 1
        funext number
        change number + (start + 1) = number + 1 + start
        omega

theorem firstMarkerLine_eq (text marker : String) :
    firstMarkerLine text marker =
      (Text.lines text.toList).findIdx? (Text.occurs marker.toList) := by
  rw [firstMarkerLine, firstLineFrom_eq]
  exact Option.map_id'

theorem firstMarkerLine_eq_some_iff (text marker : String) (number : Nat) :
    firstMarkerLine text marker = some number ↔
      Opens marker.toList (Text.lines text.toList) number := by
  rw [firstMarkerLine_eq, List.findIdx?_eq_some_iff_getElem]
  simp only [occurs_iff_isInfix]
  constructor
  · rintro ⟨bound, holds, first⟩
    refine ⟨⟨_, List.getElem?_eq_getElem bound, holds⟩, ?_⟩
    intro earlier before line found
    obtain ⟨inside, rfl⟩ := List.getElem?_eq_some_iff.mp found
    exact first earlier before
  · rintro ⟨⟨line, found, holds⟩, first⟩
    obtain ⟨bound, rfl⟩ := List.getElem?_eq_some_iff.mp found
    exact ⟨bound, holds, fun earlier before =>
      first earlier before _ (List.getElem?_eq_getElem (by omega))⟩

theorem firstMarkerLine_eq_none_iff (text marker : String) :
    firstMarkerLine text marker = none ↔
      ∀ line ∈ Text.lines text.toList, ¬ marker.toList <:+: line := by
  rw [firstMarkerLine_eq, List.findIdx?_eq_none_iff]
  refine forall₂_congr fun line _ => ?_
  rw [← occurs_iff_isInfix, Bool.not_eq_true]

/-- The policy and the search together give the offset that belongs to the text. -/
theorem offset?_eq_some_iff (text marker : String) (policy : MissingPolicy) (offset : Nat) :
    offset? (firstMarkerLine text marker) policy = some offset ↔
      OffsetIn text marker policy offset := by
  rw [OffsetIn, ← firstMarkerLine_eq_some_iff, ← firstMarkerLine_eq_none_iff]
  cases firstMarkerLine text marker with
  | some line => simp [offset?]
  | none => cases policy <;> simp [offset?, eq_comm]

end SheetLint.StyleBlock
