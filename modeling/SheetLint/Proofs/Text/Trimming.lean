/-
This file says what remains of a text without the white space at its end.
-/

import Mathlib.Data.List.TakeWhile
import SheetLint.Text.Blank

namespace SheetLint.Text

/-- The second text is the first one without the white space at its end. -/
structure TrimmedAtEnd (text trimmed : List Char) : Prop where
  rest : ∃ blanks, text = trimmed ++ blanks ∧ ∀ character ∈ blanks, isBlank character = true
  inked : ∀ last, trimmed.getLast? = some last → isBlank last = false

/-- The trimmed text is the text without a run of white space at its end. -/
theorem trimmedAtEnd_trimEnd (text : List Char) : TrimmedAtEnd text (trimEnd text) where
  rest := by
    refine ⟨(text.reverse.takeWhile isBlank).reverse, ?_, ?_⟩
    · rw [trimEnd, ← List.reverse_append, List.takeWhile_append_dropWhile, List.reverse_reverse]
    · intro character member
      exact List.mem_takeWhile_imp (List.mem_reverse.mp member)
  inked := by
    intro last ends
    rw [trimEnd, List.getLast?_reverse] at ends
    have stops := List.head?_dropWhile_not isBlank text.reverse
    rw [ends] at stops
    simpa using stops

/-- White space at the end of a text is trimmed away. -/
theorem trimEnd_append {text blanks : List Char}
    (inked : ∀ last, text.getLast? = some last → isBlank last = false)
    (blank : ∀ character ∈ blanks, isBlank character = true) :
    trimEnd (text ++ blanks) = text := by
  have stops : text.reverse.dropWhile isBlank = text.reverse := by
    cases reversed : text.reverse with
    | nil => rfl
    | cons last others =>
        have ends : text.getLast? = some last := by
          rw [List.getLast?_eq_head?_reverse, reversed]
          rfl
        rw [List.dropWhile_cons, inked last ends]
        rfl
  have passes : ∀ character ∈ blanks.reverse, isBlank character = true :=
    fun character member => blank character (List.mem_reverse.mp member)
  rw [trimEnd, List.reverse_append, List.dropWhile_append_of_pos passes, stops,
    List.reverse_reverse]

/-- White space behind a text does not show when it is trimmed. -/
theorem TrimmedAtEnd.append {text trimmed blanks : List Char} (given : TrimmedAtEnd text trimmed)
    (blank : ∀ character ∈ blanks, isBlank character = true) :
    TrimmedAtEnd (text ++ blanks) trimmed := by
  obtain ⟨⟨gap, whole, gapBlank⟩, inked⟩ := given
  refine ⟨⟨gap ++ blanks, by rw [whole, List.append_assoc], ?_⟩, inked⟩
  intro character member
  exact (List.mem_append.mp member).elim (gapBlank character) (blank character)

theorem trimmedAtEnd_iff (text trimmed : List Char) :
    TrimmedAtEnd text trimmed ↔ trimmed = trimEnd text := by
  constructor
  · intro given
    obtain ⟨⟨blanks, whole, blank⟩, inked⟩ := given
    rw [whole, trimEnd_append inked blank]
  · intro equal
    rw [equal]
    exact trimmedAtEnd_trimEnd text

end SheetLint.Text
