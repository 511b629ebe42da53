/-
This file follows a path up through its parents: what the parent of a path is, and that the way up
ends.
-/

import Mathlib.Data.List.DropRight
import SheetLint.Proofs.Path.Segments

namespace SheetLint.Path

/-- The segments that are dropped lead nowhere. -/
theorem stepsOf_rdropWhile (segments : List (List Char)) :
    stepsOf (segments.rdropWhile isTrivial) = stepsOf segments := by
  have whole : segments.rdropWhile isTrivial ++ segments.rtakeWhile isTrivial = segments :=
    List.rdropWhile_append_rtakeWhile
  have nothing : stepsOf (segments.rtakeWhile isTrivial) = [] := by
    rw [stepsOf_eq_nil_iff]
    intro segment member
    exact List.mem_rtakeWhile_imp member
  conv_rhs => rw [← whole, stepsOf_append, nothing, List.append_nil]

theorem dropTrivialEnd_eq (keepsDot : Bool) (segments : List (List Char)) :
    dropTrivialEnd keepsDot segments =
      if (segments.rdropWhile isTrivial).isEmpty && keepsDot then segments.take 1
      else segments.rdropWhile isTrivial :=
  rfl

/-- A dot is kept only where there is nothing else to keep. -/
theorem dropTrivialEnd_cases (keepsDot : Bool) (segments : List (List Char)) :
    dropTrivialEnd keepsDot segments = segments.rdropWhile isTrivial ∨
      keepsDot = true ∧ stepsOf segments = [] ∧
        dropTrivialEnd keepsDot segments = segments.take 1 := by
  rw [dropTrivialEnd_eq]
  split
  · rename_i kept
    rw [Bool.and_eq_true, List.isEmpty_iff] at kept
    refine .inr ⟨kept.2, ?_, rfl⟩
    rw [← stepsOf_rdropWhile, kept.1]
    rfl
  · exact .inl rfl

theorem prefix_dropTrivialEnd (keepsDot : Bool) (segments : List (List Char)) :
    dropTrivialEnd keepsDot segments <+: segments := by
  rcases dropTrivialEnd_cases keepsDot segments with kept | ⟨-, -, kept⟩
  · rw [kept]
    exact List.rdropWhile_prefix _ _
  · rw [kept]
    exact List.take_prefix _ _

theorem stepsOf_dropTrivialEnd (keepsDot : Bool) (segments : List (List Char)) :
    stepsOf (dropTrivialEnd keepsDot segments) = stepsOf segments := by
  rcases dropTrivialEnd_cases keepsDot segments with kept | ⟨-, nowhere, kept⟩
  · rw [kept, stepsOf_rdropWhile]
  · rw [kept, nowhere]
    rw [stepsOf_eq_nil_iff] at nowhere ⊢
    intro segment member
    exact nowhere segment (List.mem_of_mem_take member)

theorem joinSegments_concat {front : List (List Char)} (some : front ≠ []) (last : List Char) :
    joinSegments (front ++ [last]) = joinSegments front ++ '/' :: last := by
  obtain ⟨segment, front, rfl⟩ := List.exists_cons_of_ne_nil some
  rw [List.cons_append, joinSegments_cons_eq, joinSegments_cons_eq, List.flatMap_append,
    List.flatMap_singleton, List.append_assoc]

/-- A text gets longer by a segment with something in it. -/
theorem length_joinSegments_lt (front : List (List Char)) {last : List Char} (ink : last ≠ []) :
    (joinSegments front).length < (joinSegments (front ++ [last])).length := by
  by_cases nothing : front = []
  · rw [nothing]
    simpa [joinSegments, List.length_pos_iff] using ink
  · rw [joinSegments_concat nothing, List.length_append, List.length_cons]
    omega

/-- This is what stands before the segments of a path. -/
def rootText (path : Path) : List Char :=
  if path.isAbsolute then ['/'] else []

theorem characters_eq (path : Path) :
    path.characters = path.rootText ++ joinSegments path.segments := by
  rw [rootText, segments]
  cases absolute : path.isAbsolute with
  | false => exact (joinSegments_segmentsOf _).symm
  | true =>
      obtain ⟨rest, text⟩ := (isAbsolute_iff path).mp absolute
      rw [text]
      exact congrArg _ (joinSegments_segmentsOf _).symm

theorem infix_of_mem_segments {path : Path} {segment : List Char}
    (member : segment ∈ path.segments) : segment <:+: path.characters := by
  rw [characters_eq]
  exact (infix_joinSegments member).trans (List.suffix_append _ _).isInfix

/-- A path with a parent ends in a segment with something in it; without that segment it has one
step less, if it has any. -/
theorem segments_of_parent? {path parent : Path} (above : path.parent? = some parent) :
    ∃ front last keepsDot, front ++ [last] <+: path.segments ∧ last ≠ [] ∧
      stepsOf front = path.steps.dropLast ∧
      parent = ⟨path.rootText ++ joinSegments (dropTrivialEnd keepsDot front)⟩ := by
  rw [parent?] at above
  split at above
  · simp at above
  · rename_i something
    rw [List.isEmpty_iff] at something
    obtain ⟨front, last, ends⟩ := List.eq_nil_or_concat'
      (dropTrivialEnd path.startsWithDot path.segments) |>.resolve_left something
    refine ⟨front, last, path.startsWithDot && decide (1 < (front ++ [last]).length), ?_, ?_, ?_,
      ?_⟩
    · rw [← ends]
      exact prefix_dropTrivialEnd _ _
    · rintro empty
      rcases dropTrivialEnd_cases path.startsWithDot path.segments with kept | ⟨dot, -, kept⟩
      · have named := List.rdropWhile_last_not isTrivial path.segments (kept ▸ something)
        simp [← kept, ends, empty, isTrivial] at named
      · simp only [startsWithDot, Bool.and_eq_true, beq_iff_eq, List.head?_eq_some_iff] at dot
        obtain ⟨-, segments, dots⟩ := dot
        rw [kept, dots, empty] at ends
        cases front <;> simp at ends
    · rcases dropTrivialEnd_cases path.startsWithDot path.segments with kept | ⟨-, nowhere, kept⟩
      · have named := List.rdropWhile_last_not isTrivial path.segments (kept ▸ something)
        have step : stepsOf [last] = [last] := by
          simp only [← kept, ends, List.getLast_append_singleton, Bool.not_eq_true] at named
          simp [stepsOf, named]
        rw [steps_eq, ← stepsOf_dropTrivialEnd path.startsWithDot path.segments, ends,
          stepsOf_append, step, List.dropLast_concat]
      · have single : front = [] := by
          have short := congrArg List.length (kept.symm.trans ends)
          rw [List.length_append, List.length_take, List.length_singleton] at short
          exact List.eq_nil_of_length_eq_zero (by omega)
        rw [steps_eq, nowhere, single]
        rfl
    · rw [ends, List.dropLast_concat] at above
      exact (Option.some.inj above).symm

/-- A path without a parent leads nowhere. -/
theorem steps_of_parent?_eq_none {path : Path} (top : path.parent? = none) : path.steps = [] := by
  rw [parent?] at top
  split at top
  · rename_i nothing
    rw [List.isEmpty_iff] at nothing
    rw [steps_eq, ← stepsOf_dropTrivialEnd path.startsWithDot, nothing]
    rfl
  · simp at top

/-- The parent is a shorter beginning of the path. -/
theorem prefix_of_parent? {path parent : Path} (above : path.parent? = some parent) :
    parent.characters <+: path.characters ∧
      parent.characters.length < path.characters.length := by
  obtain ⟨front, last, keepsDot, begins, ink, -, text⟩ := segments_of_parent? above
  have short := prefix_dropTrivialEnd keepsDot front
  have shorter := length_joinSegments_lt front ink
  have whole := (joinSegments_mono begins).length_le
  have less := (joinSegments_mono short).length_le
  rw [text, characters_eq path]
  constructor
  · rw [List.prefix_append_right_inj]
    exact joinSegments_mono ((short.trans (List.prefix_append _ _)).trans begins)
  · rw [List.length_append, List.length_append]
    omega

theorem isAbsolute_of_parent? {path parent : Path} (above : path.parent? = some parent) :
    parent.isAbsolute = path.isAbsolute := by
  obtain ⟨front, last, keepsDot, -, -, -, text⟩ := segments_of_parent? above
  obtain ⟨⟨rest, whole⟩, -⟩ := prefix_of_parent? above
  cases absolute : path.isAbsolute with
  | true =>
      rw [text, rootText, absolute]
      rfl
  | false =>
      by_contra other
      rw [Bool.not_eq_false, isAbsolute_iff] at other
      obtain ⟨later, slash⟩ := other
      rw [slash] at whole
      rw [isAbsolute, ← whole] at absolute
      simp at absolute

/-- The parent lacks the last step, if there is one. -/
theorem steps_of_parent? {path parent : Path} (above : path.parent? = some parent) :
    parent.steps = path.steps.dropLast := by
  obtain ⟨front, last, keepsDot, begins, -, less, text⟩ := segments_of_parent? above
  have short := prefix_dropTrivialEnd keepsDot front
  rw [← less, ← stepsOf_dropTrivialEnd keepsDot front, text]
  have slash : steps ⟨path.rootText ++ joinSegments (dropTrivialEnd keepsDot front)⟩ =
      steps ⟨joinSegments (dropTrivialEnd keepsDot front)⟩ := by
    rw [rootText]
    split <;> rfl
  rw [slash]
  by_cases nothing : dropTrivialEnd keepsDot front = []
  · rw [nothing]
    rfl
  · have plain : ∀ segment ∈ dropTrivialEnd keepsDot front, '/' ∉ segment := by
      intro segment member
      exact segments_plain path segment
        (begins.subset (List.mem_append_left _ (short.subset member)))
    rw [steps, segmentsOf_joinSegments nothing plain]

/-- A path is a beginning of another one, in its text and in its steps. -/
structure Begins (path whole : Path) : Prop where
  text : path.characters <+: whole.characters
  root : path.isAbsolute = whole.isAbsolute
  steps : path.steps <+: whole.steps

theorem Begins.refl (path : Path) : path.Begins path :=
  ⟨List.prefix_rfl, rfl, List.prefix_rfl⟩

theorem Begins.parent {path parent whole : Path} (begins : path.Begins whole)
    (above : path.parent? = some parent) : parent.Begins whole where
  text := (prefix_of_parent? above).1.trans begins.text
  root := (isAbsolute_of_parent? above).trans begins.root
  steps := by
    rw [steps_of_parent? above]
    exact (List.dropLast_prefix _).trans begins.steps

/-- What holds of a path whenever it holds of its parent holds of every path. -/
theorem parent_induction {motive : Path → Prop}
    (climb : ∀ path : Path, (∀ parent, path.parent? = some parent → motive parent) → motive path)
    (path : Path) : motive path := by
  induction length : path.characters.length using Nat.strong_induction_on generalizing path with
  | h bound inductionHypothesis =>
      apply climb
      intro parent above
      have shorter := (prefix_of_parent? above).2
      exact inductionHypothesis _ (length ▸ shorter) parent rfl

/-- The way up is the same with any fuel that the length of the path allows. -/
theorem upward_congr {path : Path} {fuel other : Nat} (enough : path.characters.length ≤ fuel)
    (enough' : path.characters.length ≤ other) : upward fuel path = upward other path := by
  induction path using parent_induction generalizing fuel other with
  | climb path inductionHypothesis =>
      cases above : path.parent? with
      | none =>
          cases fuel <;> cases other <;> simp [upward, above]
      | some parent =>
          have shorter := (prefix_of_parent? above).2
          obtain ⟨fuel, rfl⟩ := Nat.exists_eq_add_one_of_ne_zero (show fuel ≠ 0 by omega)
          obtain ⟨other, rfl⟩ := Nat.exists_eq_add_one_of_ne_zero (show other ≠ 0 by omega)
          have same : upward fuel parent = upward other parent :=
            inductionHypothesis parent above (by omega) (by omega)
          simp only [upward, above, same]

/-- The search looks at the path itself and then goes on from its parent. -/
theorem firstUpward_eq (path : Path) (passes : Path → Bool) :
    path.firstUpward passes =
      if passes path then some path
      else path.parent?.bind fun parent => parent.firstUpward passes := by
  rw [firstUpward, upward_congr (Nat.le_refl _) (Nat.le_succ _), upward, List.find?_cons]
  cases passes path with
  | true => rfl
  | false =>
      cases above : path.parent? with
      | none => rfl
      | some parent =>
          have shorter := (prefix_of_parent? above).2
          change (upward path.characters.length parent).find? passes = _
          rw [upward_congr (Nat.le_of_lt shorter) (Nat.le_refl _)]
          rfl

end SheetLint.Path
