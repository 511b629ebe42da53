/-
This file says which message a diagnostic carries.
-/

import SheetLint.Diagnosis
import SheetLint.Proofs.Text.Occurring
import SheetLint.Proofs.Text.Removal
import SheetLint.Proofs.Text.Trimming

namespace SheetLint

open Text

namespace Warning

variable (warning : Warning)

theorem annotation_eq : warning.annotation = '(' :: warning.rule.toList ++ [')'] := rfl

theorem annotation_ne_nil : warning.annotation ≠ [] := by
  simp [annotation_eq]

/-- The message is made of the pieces of the text around the name of the rule. -/
theorem trimmedAtEnd_message {pieces : List (List Char)}
    (cut : CutAround warning.annotation warning.text.toList pieces) :
    TrimmedAtEnd pieces.flatten warning.message.toList := by
  rw [message, String.toList_ofList, cut.removeAll_eq warning.annotation_ne_nil]
  exact trimmedAtEnd_trimEnd pieces.flatten

/-- The name of the rule ends with the only closing parenthesis in it, so it does not begin in the
prose when it is to be found behind the prose only. -/
theorem firstOccurrence_annotation {front ending : List Char} (simple : ')' ∉ warning.rule.toList)
    (absent : ¬ warning.annotation <:+: front) :
    FirstOccurrence warning.annotation (front ++ warning.annotation ++ ending) front ending := by
  refine ⟨rfl, ?_⟩
  intro earlier later equal
  by_contra ahead
  have opening : ')' ∉ '(' :: warning.rule.toList := by simpa using simple
  -- an earlier occurrence would be over before the closing parenthesis of this one
  have here : front ++ '(' :: warning.rule.toList <+: front ++ warning.annotation ++ ending :=
    ⟨')' :: ending, by simp [annotation_eq]⟩
  have whole : earlier ++ warning.annotation <+: front ++ '(' :: warning.rule.toList := by
    refine List.prefix_of_prefix_length_le ⟨later, equal.symm⟩ here ?_
    simp [annotation_eq]
    omega
  have inside : warning.annotation <:+: earlier ++ warning.annotation :=
    (List.suffix_append _ _).isInfix
  exact absent (infix_of_infix_append opening (inside.trans whole.isInfix))

end Warning

/-- A text can be cut around the name of its rule in one way, and the message is made of the pieces,
without white space at the end. When the name holds no closing parenthesis and stands once behind
the prose, the message is the prose. -/
theorem Warning.message_cutAround (offset : Nat) (warning : Warning) :
    let annotation := '(' :: warning.rule.toList ++ [')']
    let message := (warning.diagnose offset).1.message.toList
    (∃ pieces, CutAround annotation warning.text.toList pieces ∧
      (∀ other, CutAround annotation warning.text.toList other → other = pieces) ∧
      TrimmedAtEnd pieces.flatten message) ∧
    (')' ∉ warning.rule.toList → ∀ prose blanks ending : List Char,
      warning.text.toList = prose ++ blanks ++ annotation ++ ending →
      ¬ annotation <:+: prose →
      (∀ character ∈ blanks, isBlank character = true) →
      (∀ character ∈ ending, isBlank character = true) →
        TrimmedAtEnd prose message) := by
  intro annotation message
  have closing : isBlank ')' = false := by decide
  constructor
  · obtain ⟨pieces, cut⟩ := exists_cutAround warning.annotation_ne_nil warning.text.toList
    exact ⟨pieces, cut, fun _ => cut.unique, warning.trimmedAtEnd_message cut⟩
  · intro simple prose blanks ending text absent blank ended
    have notBlank : ∀ gap : List Char, (∀ character ∈ gap, isBlank character = true) →
        ')' ∉ gap := by
      intro gap blank member
      rw [blank _ member] at closing
      exact absurd closing (by decide)
    have front : ¬ annotation <:+: prose ++ blanks := fun given =>
      absent (infix_of_infix_append (notBlank blanks blank) given)
    have behind : ¬ annotation <:+: ending := fun given =>
      notBlank ending ended (given.subset (List.mem_append_right _ List.mem_cons_self))
    have cut : CutAround warning.annotation warning.text.toList [prose ++ blanks, ending] := by
      rw [cutAround_cons_iff _ _ _ (List.cons_ne_nil _ _), text]
      exact ⟨ending, warning.firstOccurrence_annotation simple front,
        (cutAround_singleton_iff _ _ _).mpr ⟨rfl, behind⟩⟩
    have trimmed := warning.trimmedAtEnd_message cut
    have same : TrimmedAtEnd (prose ++ blanks ++ ending) (trimEnd prose) :=
      ((trimmedAtEnd_trimEnd prose).append blank).append ended
    rw [trimmedAtEnd_iff] at same
    rw [List.flatten_cons, List.flatten_singleton, trimmedAtEnd_iff, ← same] at trimmed
    change TrimmedAtEnd prose warning.message.toList
    rw [trimmed]
    exact trimmedAtEnd_trimEnd prose

/-- What is left is not searched again. -/
example : Warning.message ⟨1, 1, "error", "", "a (()) ()()"⟩ = "a ()" := by decide

end SheetLint
