/-
This file looks for one text inside another and removes it.
-/

namespace SheetLint.Text

/-- This test holds when the needle stands somewhere in the text. -/
def occurs (needle : List Char) : List Char → Bool
  | [] => needle.isEmpty
  | character :: rest => needle.isPrefixOf (character :: rest) || occurs needle rest

/-- This function gives the text before the first occurrence of the needle and the text after
it. -/
def splitAtFirst (needle : List Char) : List Char → Option (List Char × List Char)
  | [] => if needle.isEmpty then some ([], []) else none
  | character :: rest =>
      if needle.isPrefixOf (character :: rest) then
        some ([], (character :: rest).drop needle.length)
      else (splitAtFirst needle rest).map fun parts => (character :: parts.1, parts.2)

/-- This function leaves out the needle wherever it stands, from the left and without overlaps.
The number counts the characters of the last occurrence that are still to be skipped. -/
def removeFrom (needle : List Char) : Nat → List Char → List Char
  | _, [] => []
  | skipped + 1, _ :: rest => removeFrom needle skipped rest
  | 0, character :: rest =>
      if needle.isPrefixOf (character :: rest) then removeFrom needle (needle.length - 1) rest
      else character :: removeFrom needle 0 rest

/-- This is the text without the occurrences of the needle. -/
def removeAll (needle text : List Char) : List Char :=
  removeFrom needle 0 text

theorem removeFrom_eq_drop (needle : List Char) (skipped : Nat) (text : List Char) :
    removeFrom needle skipped text = removeFrom needle 0 (text.drop skipped) := by
  induction text generalizing skipped with
  | nil => cases skipped <;> simp [removeFrom]
  | cons character rest inductionHypothesis =>
      cases skipped with
      | zero => rfl
      | succ skipped => simpa [removeFrom] using inductionHypothesis skipped

theorem occurs_iff (needle text : List Char) :
    occurs needle text = true ↔ ∃ before after, text = before ++ needle ++ after := by
  induction text with
  | nil =>
      constructor
      · intro empty
        have nothing : needle = [] := by simpa [occurs] using empty
        exact ⟨[], [], by simp [nothing]⟩
      · rintro ⟨before, after, equal⟩
        have nothing : needle = [] := by
          have lengths := congrArg List.length equal
          simp at lengths
          exact List.eq_nil_of_length_eq_zero (by omega)
        simp [occurs, nothing]
  | cons character rest inductionHypothesis =>
      rw [occurs, Bool.or_eq_true, List.isPrefixOf_iff_prefix, inductionHypothesis]
      constructor
      · rintro (⟨after, equal⟩ | ⟨before, after, equal⟩)
        · exact ⟨[], after, by simp [equal]⟩
        · exact ⟨character :: before, after, by simp [equal]⟩
      · rintro ⟨before, after, equal⟩
        cases before with
        | nil => exact Or.inl ⟨after, by simpa using equal.symm⟩
        | cons first before =>
            refine Or.inr ⟨before, after, ?_⟩
            simpa using (List.cons.inj equal).2

end SheetLint.Text
