/-
This file says where a mark occurs in a text that is put together from pieces.
-/

import Mathlib.Data.List.Basic

namespace SheetLint.Text

/-- Whatever follows the text, the mark occurs from inside it exactly under the condition. -/
def OccursIn (mark text : List Char) (condition : Prop) : Prop :=
  ∀ rest, mark <:+: text ++ rest ↔ condition ∨ mark <:+: rest

variable {mark : List Char}

/-- What occurs in front of nothing is all that occurs. -/
theorem OccursIn.infix_iff {text : List Char} {condition : Prop}
    (occurs : OccursIn mark text condition) (filled : mark ≠ []) :
    mark <:+: text ↔ condition := by
  have whole := occurs []
  rw [List.append_nil, List.infix_nil] at whole
  rw [whole, or_iff_left filled]

theorem OccursIn.append {first second : List Char} {condition other : Prop}
    (occursFirst : OccursIn mark first condition) (occursSecond : OccursIn mark second other) :
    OccursIn mark (first ++ second) (condition ∨ other) := by
  intro rest
  rw [List.append_assoc, occursFirst, occursSecond, or_assoc]

theorem OccursIn.congr {text : List Char} {condition other : Prop}
    (occurs : OccursIn mark text condition) (same : condition ↔ other) :
    OccursIn mark text other := by
  intro rest
  rw [occurs rest, same]

/-- A mark occurs nowhere in a text that does not hold the first character of the mark. -/
theorem occursIn_of_not_mem {start : Char} {more text : List Char} (absent : start ∉ text) :
    OccursIn (start :: more) text False := by
  intro rest
  rw [false_or, List.infix_append_iff_ne_nil]
  constructor
  · intro given
    -- A mark on the border would start inside the text.
    rcases given with inText | inRest | ⟨left, right, leftFilled, _, equal, isSuffix, _⟩
    · exact absurd (inText.subset List.mem_cons_self) absent
    · exact inRest
    · cases left with
      | nil => exact absurd rfl leftFilled
      | cons character left =>
          rw [List.cons_append, List.cons.injEq] at equal
          rw [equal.1] at absent
          exact absurd (isSuffix.subset List.mem_cons_self) absent
  · exact fun inRest => Or.inr (Or.inl inRest)

/-- A mark does not reach over a character that it does not hold. -/
theorem occursIn_of_stop {stop : Char} (absent : stop ∉ mark) (text : List Char) :
    OccursIn mark (text ++ [stop]) (mark <:+: text) := by
  intro rest
  have skip : mark <:+: stop :: rest ↔ mark <:+: rest := by
    rw [List.infix_cons_iff]
    constructor
    · intro given
      rcases given with ⟨behind, equal⟩ | later
      · cases mark with
        | nil => exact List.nil_infix
        | cons first more =>
            rw [List.cons_append, List.cons.injEq] at equal
            exact absurd (equal.1 ▸ List.mem_cons_self) absent
      · exact later
    · exact Or.inr
  rw [List.append_assoc, List.cons_append, List.nil_append, List.infix_append_iff_ne_nil, skip]
  constructor
  · intro given
    rcases given with before | after | ⟨left, right, _, rightFilled, equal, _, isPrefix⟩
    · exact Or.inl before
    · exact Or.inr after
    · cases right with
      | nil => exact absurd rfl rightFilled
      | cons first right =>
          obtain ⟨behind, same⟩ := isPrefix
          rw [List.cons_append, List.cons.injEq] at same
          rw [equal, ← same.1] at absent
          exact absurd (List.mem_append_right _ List.mem_cons_self) absent
  · intro given
    rcases given with before | after
    · exact Or.inl before
    · exact Or.inr (Or.inl after)

/-- A mark does not end in a text that does not hold the last character of the mark. -/
theorem infix_of_infix_append {more text tail : List Char} {stop : Char} (absent : stop ∉ tail)
    (given : more ++ [stop] <:+: text ++ tail) : more ++ [stop] <:+: text := by
  rw [List.infix_append_iff_ne_nil] at given
  rcases given with inText | inTail | ⟨left, right, _, filled, equal, _, isPrefix⟩
  · exact inText
  · exact absurd (inTail.subset (List.mem_append_right _ List.mem_cons_self)) absent
  · -- a part of the mark that reaches into the tail ends as the mark does
    have ends : stop ∈ right := by
      have last := congrArg List.getLast? equal
      rw [List.getLast?_append_of_ne_nil _ filled, List.getLast?_concat] at last
      exact List.mem_of_getLast? last.symm
    exact absurd (isPrefix.subset ends) absent

/-- Between pieces with a mark of their own there is no mark. -/
theorem occursIn_flatMap {Piece : Type} {start : Char} {more : List Char} {stop : Char}
    (other : start ≠ stop) {pieces : List Piece} {write : Piece → List Char}
    {condition : Piece → Prop}
    (occurs : ∀ piece ∈ pieces, OccursIn (start :: more) (write piece) (condition piece)) :
    OccursIn (start :: more) ((pieces.map write).flatMap fun text => stop :: text)
      (∃ piece ∈ pieces, condition piece) := by
  have stopped : OccursIn (start :: more) [stop] False :=
    occursIn_of_not_mem fun member => other (List.mem_singleton.mp member)
  induction pieces with
  | nil =>
      exact (occursIn_of_not_mem List.not_mem_nil).congr (iff_of_false id (by simp))
  | cons piece pieces inductionHypothesis =>
      have later := inductionHypothesis fun piece member =>
        occurs piece (List.mem_cons_of_mem _ member)
      have first := occurs piece List.mem_cons_self
      have whole := (stopped.append first).append later
      rw [List.map_cons, List.flatMap_cons]
      exact whole.congr (by simp)

end SheetLint.Text
