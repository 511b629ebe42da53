/-
This file says what the search for one text inside another finds.
-/

import Mathlib.Data.List.Basic
import SheetLint.Text.Occurrence

namespace SheetLint.Text

/-- The needle stands between the two parts, and it stands nowhere earlier in the text. -/
structure FirstOccurrence (needle text before after : List Char) : Prop where
  whole : text = before ++ needle ++ after
  earliest : ∀ earlier later, text = earlier ++ needle ++ later → before.length ≤ earlier.length

/-- The needle is found at the front exactly when the text starts with it. -/
theorem firstOccurrence_nil_iff (needle text after : List Char) :
    FirstOccurrence needle text [] after ↔ text = needle ++ after := by
  constructor
  · intro found
    exact found.whole
  · intro equal
    exact ⟨equal, fun _ _ _ => Nat.zero_le _⟩

/-- A first occurrence behind a character is one in the rest, unless the text starts with the
needle. -/
theorem firstOccurrence_cons_iff (needle : List Char) (character : Char)
    (rest before after : List Char) (absent : ¬ needle <+: character :: rest) :
    FirstOccurrence needle (character :: rest) (character :: before) after ↔
      FirstOccurrence needle rest before after := by
  constructor
  · intro given
    obtain ⟨whole, earliest⟩ := given
    refine ⟨by simpa using whole, ?_⟩
    intro earlier later equal
    have bound := earliest (character :: earlier) later (by simp [equal])
    simpa using bound
  · intro given
    obtain ⟨whole, earliest⟩ := given
    refine ⟨by simp [whole], ?_⟩
    intro earlier later equal
    cases earlier with
    | nil => exact absurd ⟨later, by simpa using equal.symm⟩ absent
    | cons first earlier =>
        have bound := earliest earlier later (by simpa using (List.cons.inj equal).2)
        simpa using bound

/-- In the empty text only the empty needle is found. -/
theorem firstOccurrence_empty_iff (needle before after : List Char) :
    FirstOccurrence needle [] before after ↔ needle = [] ∧ before = [] ∧ after = [] := by
  constructor
  · intro found
    have nothing := found.whole.symm
    rw [List.append_eq_nil_iff, List.append_eq_nil_iff] at nothing
    exact ⟨nothing.1.2, nothing.1.1, nothing.2⟩
  · intro given
    obtain ⟨noNeedle, noBefore, noAfter⟩ := given
    rw [noBefore, firstOccurrence_nil_iff, noNeedle, noAfter]
    rfl

/-- The search finds the parts around the first occurrence and nothing else. -/
theorem splitAtFirst_eq_some_iff (needle text before after : List Char) :
    splitAtFirst needle text = some (before, after) ↔
      FirstOccurrence needle text before after := by
  induction text generalizing before with
  | nil =>
      rw [firstOccurrence_empty_iff, splitAtFirst]
      by_cases nothing : needle = []
      · simp [nothing, eq_comm]
      · simp [nothing]
  | cons character rest inductionHypothesis =>
      rw [splitAtFirst]
      by_cases starts : needle <+: character :: rest
      · obtain ⟨after', equal⟩ := starts
        rw [if_pos (by rw [List.isPrefixOf_iff_prefix]; exact ⟨after', equal⟩), ← equal,
          List.drop_left]
        constructor
        · intro found
          simp only [Option.some.injEq, Prod.mk.injEq] at found
          rw [← found.1, ← found.2, firstOccurrence_nil_iff]
        · intro found
          have short := found.earliest [] after' (by simp)
          have noBefore : before = [] := List.eq_nil_of_length_eq_zero (by simpa using short)
          have same := found.whole
          simp only [noBefore, List.nil_append, List.append_cancel_left_eq] at same
          rw [noBefore, same]
      · rw [if_neg (by rwa [List.isPrefixOf_iff_prefix])]
        constructor
        · intro found
          obtain ⟨⟨before', after'⟩, inner, equal⟩ := Option.map_eq_some_iff.mp found
          simp only [Prod.mk.injEq] at equal
          rw [equal.2] at inner
          rw [← equal.1, firstOccurrence_cons_iff _ _ _ _ _ starts]
          exact (inductionHypothesis before').mp inner
        · intro found
          cases before with
          | nil => exact absurd ⟨after, (found.whole).symm⟩ starts
          | cons first before =>
              have same : character = first := (List.cons.inj found.whole).1
              rw [← same, firstOccurrence_cons_iff _ _ _ _ _ starts] at found
              rw [(inductionHypothesis before).mpr found, ← same]
              rfl

theorem FirstOccurrence.unique {needle text before after before' after' : List Char}
    (found : FirstOccurrence needle text before after)
    (other : FirstOccurrence needle text before' after') : before' = before ∧ after' = after := by
  have here := (splitAtFirst_eq_some_iff needle text before after).mpr found
  rw [(splitAtFirst_eq_some_iff needle text before' after').mpr other] at here
  simpa using here

theorem FirstOccurrence.isInfix {needle text before after : List Char}
    (found : FirstOccurrence needle text before after) : needle <:+: text :=
  ⟨before, after, found.whole.symm⟩

/-- At the front of a text the search splits at once. -/
theorem splitAtFirst_append (needle rest : List Char) :
    splitAtFirst needle (needle ++ rest) = some ([], rest) := by
  rw [splitAtFirst_eq_some_iff, firstOccurrence_nil_iff]

/-- Elsewhere the search passes over the first character. -/
theorem splitAtFirst_cons {needle rest : List Char} {character : Char}
    (absent : ¬ needle <+: character :: rest) :
    splitAtFirst needle (character :: rest) =
      (splitAtFirst needle rest).map fun parts => (character :: parts.1, parts.2) := by
  rw [splitAtFirst, if_neg (by rwa [List.isPrefixOf_iff_prefix])]

/-- The search fails exactly where the needle stands nowhere. -/
theorem splitAtFirst_eq_none_iff (needle text : List Char) :
    splitAtFirst needle text = none ↔ ¬ needle <:+: text := by
  induction text with
  | nil =>
      rw [splitAtFirst, List.infix_nil, ← List.isEmpty_iff]
      cases needle.isEmpty <;> simp
  | cons character rest inductionHypothesis =>
      rw [splitAtFirst, List.infix_cons_iff, ← List.isPrefixOf_iff_prefix]
      cases needle.isPrefixOf (character :: rest) <;> simp [inductionHypothesis]

end SheetLint.Text
