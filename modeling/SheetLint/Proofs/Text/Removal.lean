/-
This file says what remains of a text without the occurrences of another one.
-/

import SheetLint.Proofs.Text.FirstOccurrence

namespace SheetLint.Text

/-- These are the pieces of a text around a needle, from the left: behind each piece but the last
one the needle occurs for the first time, and in the last one it does not occur. -/
structure CutAround (needle text : List Char) (pieces : List (List Char)) : Prop where
  filled : pieces ≠ []
  whole : needle.intercalate pieces = text
  first : ∀ earlier piece later, pieces = earlier ++ piece :: later → later ≠ [] →
    FirstOccurrence needle (needle.intercalate (piece :: later)) piece (needle.intercalate later)
  last : ∀ earlier piece, pieces = earlier ++ [piece] → ¬ needle <:+: piece

theorem cutAround_singleton_iff (needle text piece : List Char) :
    CutAround needle text [piece] ↔ text = piece ∧ ¬ needle <:+: piece := by
  constructor
  · intro cut
    exact ⟨cut.whole.symm.trans List.intercalate_singleton, cut.last [] piece rfl⟩
  · rintro ⟨rfl, absent⟩
    refine ⟨List.cons_ne_nil _ _, List.intercalate_singleton, ?_, ?_⟩
    · intro earlier piece later equal more
      have short := congrArg List.length equal
      have some := List.length_pos_iff.mpr more
      simp at short
      omega
    · intro earlier piece equal
      have same : some text = some piece := by simpa using congrArg List.getLast? equal
      rwa [← Option.some.inj same]

theorem cutAround_cons_iff (needle text piece : List Char) {later : List (List Char)}
    (more : later ≠ []) :
    CutAround needle text (piece :: later) ↔
      ∃ after, FirstOccurrence needle text piece after ∧ CutAround needle after later := by
  constructor
  · intro cut
    refine ⟨needle.intercalate later, ?_, more, rfl, ?_, ?_⟩
    · have found := cut.first [] piece later rfl more
      rwa [cut.whole] at found
    · rintro earlier inner last rfl
      exact cut.first (piece :: earlier) inner last rfl
    · rintro earlier inner rfl
      exact cut.last (piece :: earlier) inner rfl
  · rintro ⟨after, found, cut⟩
    have whole : needle.intercalate (piece :: later) = text := by
      rw [List.intercalate_cons_of_ne_nil more, cut.whole, found.whole]
    refine ⟨List.cons_ne_nil _ _, whole, ?_, ?_⟩
    · intro earlier inner last equal some
      cases earlier with
      | nil =>
          obtain ⟨rfl, rfl⟩ := List.cons.inj equal
          rwa [whole, cut.whole]
      | cons first earlier => exact cut.first earlier inner last (List.cons.inj equal).2 some
    · intro earlier inner equal
      cases earlier with
      | nil => exact absurd (List.cons.inj equal).2 more
      | cons first earlier => exact cut.last earlier inner (List.cons.inj equal).2

/-- There is only one way to cut a text. -/
theorem CutAround.unique {needle text : List Char} {pieces other : List (List Char)}
    (cut : CutAround needle text pieces) (again : CutAround needle text other) :
    other = pieces := by
  induction pieces generalizing text other with
  | nil => exact absurd rfl cut.filled
  | cons piece later inductionHypothesis =>
      obtain ⟨piece', later', rfl⟩ := List.exists_cons_of_ne_nil again.filled
      by_cases more : later = [] <;> by_cases more' : later' = []
      · subst more more'
        rw [cutAround_singleton_iff] at cut again
        rw [← again.1, cut.1]
      · subst more
        obtain ⟨rfl, absent⟩ := (cutAround_singleton_iff _ _ _).mp cut
        obtain ⟨after, found, -⟩ := (cutAround_cons_iff _ _ _ more').mp again
        exact absurd found.isInfix absent
      · subst more'
        obtain ⟨rfl, absent⟩ := (cutAround_singleton_iff _ _ _).mp again
        obtain ⟨after, found, -⟩ := (cutAround_cons_iff _ _ _ more).mp cut
        exact absurd found.isInfix absent
      · obtain ⟨after, found, rest⟩ := (cutAround_cons_iff _ _ _ more).mp cut
        obtain ⟨after', found', rest'⟩ := (cutAround_cons_iff _ _ _ more').mp again
        obtain ⟨rfl, rfl⟩ := found.unique found'
        rw [inductionHypothesis rest rest']

/-- Every text can be cut around a needle that is not empty. -/
theorem exists_cutAround {needle : List Char} (filled : needle ≠ []) (text : List Char) :
    ∃ pieces, CutAround needle text pieces := by
  induction length : text.length using Nat.strongRecOn generalizing text with
  | _ length inductionHypothesis =>
      cases split : splitAtFirst needle text with
      | none =>
          have absent := (splitAtFirst_eq_none_iff needle text).mp split
          exact ⟨[text], (cutAround_singleton_iff _ _ _).mpr ⟨rfl, absent⟩⟩
      | some parts =>
          have found := (splitAtFirst_eq_some_iff needle text parts.1 parts.2).mp split
          have shorter : parts.2.length < text.length := by
            have some := List.length_pos_iff.mpr filled
            rw [found.whole, List.length_append, List.length_append]
            omega
          obtain ⟨pieces, cut⟩ := inductionHypothesis _ (length ▸ shorter) parts.2 rfl
          exact ⟨parts.1 :: pieces, (cutAround_cons_iff _ _ _ cut.filled).mpr ⟨_, found, cut⟩⟩

variable {needle : List Char}

theorem removeAll_append (filled : needle ≠ []) (after : List Char) :
    removeAll needle (needle ++ after) = removeAll needle after := by
  obtain ⟨first, needle, rfl⟩ := List.exists_cons_of_ne_nil filled
  rw [removeAll, List.cons_append, removeFrom, if_pos (by simp), removeFrom_eq_drop]
  simp [removeAll]

theorem removeAll_cons_of_ne {character : Char} {rest : List Char}
    (absent : ¬ needle <+: character :: rest) :
    removeAll needle (character :: rest) = character :: removeAll needle rest := by
  rw [removeAll, removeFrom, if_neg (by rwa [List.isPrefixOf_iff_prefix]), removeAll]

theorem removeAll_of_absent {text : List Char} (absent : ¬ needle <:+: text) :
    removeAll needle text = text := by
  induction text with
  | nil => rfl
  | cons character rest inductionHypothesis =>
      rw [List.infix_cons_iff, not_or] at absent
      rw [removeAll_cons_of_ne absent.1, inductionHypothesis absent.2]

theorem removeAll_of_firstOccurrence (filled : needle ≠ []) {text before after : List Char}
    (found : FirstOccurrence needle text before after) :
    removeAll needle text = before ++ removeAll needle after := by
  induction before generalizing text with
  | nil =>
      rw [(firstOccurrence_nil_iff needle text after).mp found, removeAll_append filled]
      rfl
  | cons character before inductionHypothesis =>
      obtain ⟨rest, rfl⟩ : ∃ rest, text = character :: rest := ⟨_, found.whole⟩
      have absent : ¬ needle <+: character :: rest := by
        rintro ⟨later, equal⟩
        have early := found.earliest [] later equal.symm
        simp at early
      rw [firstOccurrence_cons_iff _ _ _ _ _ absent] at found
      rw [removeAll_cons_of_ne absent, inductionHypothesis found, List.cons_append]

/-- What remains of a text are the pieces around the needle. -/
theorem CutAround.removeAll_eq (filled : needle ≠ []) {text : List Char}
    {pieces : List (List Char)} (cut : CutAround needle text pieces) :
    removeAll needle text = pieces.flatten := by
  induction pieces generalizing text with
  | nil => exact absurd rfl cut.filled
  | cons piece later inductionHypothesis =>
      by_cases more : later = []
      · subst more
        obtain ⟨rfl, absent⟩ := (cutAround_singleton_iff _ _ _).mp cut
        rw [removeAll_of_absent absent, List.flatten_singleton]
      · obtain ⟨after, found, rest⟩ := (cutAround_cons_iff _ _ _ more).mp cut
        rw [removeAll_of_firstOccurrence filled found, inductionHypothesis rest, List.flatten_cons]

end SheetLint.Text
