/-
This file takes paths apart at their slashes and puts them together again. What a path leads to
hangs on its steps, the segments that are neither empty nor one dot.
-/

import Mathlib.Data.List.Basic
import SheetLint.Path
import SheetLint.Proofs.Text.Runs

namespace SheetLint.Path

theorem toString_inj {path other : Path} : path.toString = other.toString ↔ path = other := by
  rw [Path.toString, Path.toString, String.ofList_inj]
  cases path
  cases other
  rw [Path.mk.injEq]

theorem segmentsOf_eq_splitOn (text : List Char) : segmentsOf text = text.splitOn '/' := by
  induction text with
  | nil => rfl
  | cons character rest inductionHypothesis =>
      rw [segmentsOf, List.splitOn_cons_eq_if_modifyHead, inductionHypothesis]
      obtain ⟨segment, segments, cut⟩ := List.exists_cons_of_ne_nil (List.splitOn_ne_nil '/' rest)
      rw [cut]
      rfl

theorem segmentsOf_ne_nil (text : List Char) : segmentsOf text ≠ [] := by
  rw [segmentsOf_eq_splitOn]
  exact List.splitOn_ne_nil '/' text

theorem segmentsOf_slash (rest : List Char) : segmentsOf ('/' :: rest) = [] :: segmentsOf rest :=
  rfl

/-- A character that is no slash belongs to the first segment. -/
theorem segmentsOf_cons {character : Char} (plain : character ≠ '/') {rest segment : List Char}
    {segments : List (List Char)} (cut : segmentsOf rest = segment :: segments) :
    segmentsOf (character :: rest) = (character :: segment) :: segments := by
  rw [segmentsOf, if_neg (by simpa using plain), cut]

theorem segmentsOf_append_slash (text rest : List Char) :
    segmentsOf (text ++ '/' :: rest) = segmentsOf text ++ segmentsOf rest := by
  simp only [segmentsOf_eq_splitOn, List.splitOn_append_cons_self]

theorem segmentsOf_of_plain {text : List Char} (plain : '/' ∉ text) :
    segmentsOf text = [text] := by
  rw [segmentsOf_eq_splitOn, List.splitOn_eq_singleton plain]

theorem slash_not_mem_segmentsOf (text : List Char) :
    ∀ segment ∈ segmentsOf text, '/' ∉ segment := by
  rw [segmentsOf_eq_splitOn]
  exact fun _ => Text.not_mem_of_mem_splitOn

theorem joinSegments_cons (segment : List Char) {segments : List (List Char)}
    (more : segments ≠ []) :
    joinSegments (segment :: segments) = segment ++ '/' :: joinSegments segments := by
  cases segments with
  | nil => exact absurd rfl more
  | cons next segments => simp [joinSegments, List.intercalate]

theorem joinSegments_cons_eq (segment : List Char) (rest : List (List Char)) :
    joinSegments (segment :: rest) = segment ++ rest.flatMap ('/' :: ·) := by
  induction rest generalizing segment with
  | nil => simp [joinSegments]
  | cons next rest inductionHypothesis =>
      rw [joinSegments_cons _ (List.cons_ne_nil _ _), inductionHypothesis, List.flatMap_cons]
      rfl

/-- Every segment in front of another one ends at a slash, and every one behind it begins there. -/
theorem joinSegments_around (front : List (List Char)) (segment : List Char)
    (rest : List (List Char)) :
    joinSegments (front ++ segment :: rest) =
      front.flatMap (· ++ ['/']) ++ segment ++ rest.flatMap ('/' :: ·) := by
  induction front with
  | nil => exact joinSegments_cons_eq segment rest
  | cons first front inductionHypothesis =>
      rw [List.cons_append, joinSegments_cons _ (by simp), inductionHypothesis, List.flatMap_cons]
      simp

/-- Putting together what was cut gives the text back. -/
theorem joinSegments_segmentsOf (text : List Char) : joinSegments (segmentsOf text) = text := by
  rw [segmentsOf_eq_splitOn, joinSegments, List.intercalate_splitOn]

/-- Cutting what was put together gives the segments back, as long as no slash is in them. -/
theorem segmentsOf_joinSegments {segments : List (List Char)} (some : segments ≠ [])
    (plain : ∀ segment ∈ segments, '/' ∉ segment) :
    segmentsOf (joinSegments segments) = segments := by
  rw [segmentsOf_eq_splitOn, joinSegments, List.splitOn_intercalate '/' plain some]

theorem segment_prefix_joinSegments (segment : List Char) (segments : List (List Char)) :
    segment <+: joinSegments (segment :: segments) := by
  rw [joinSegments_cons_eq]
  exact List.prefix_append _ _

theorem infix_joinSegments {segments : List (List Char)} {segment : List Char}
    (member : segment ∈ segments) : segment <:+: joinSegments segments := by
  obtain ⟨front, rest, rfl⟩ := List.append_of_mem member
  rw [joinSegments_around]
  exact ⟨_, _, rfl⟩

/-- A beginning of the segments gives a beginning of the text. -/
theorem joinSegments_mono {first segments : List (List Char)} (begins : first <+: segments) :
    joinSegments first <+: joinSegments segments := by
  obtain ⟨rest, rfl⟩ := begins
  cases first with
  | nil => exact List.nil_prefix
  | cons segment first =>
      rw [List.cons_append, joinSegments_cons_eq, joinSegments_cons_eq, List.flatMap_append,
        ← List.append_assoc]
      exact List.prefix_append _ _

/-- These are the segments that lead somewhere. -/
def stepsOf (segments : List (List Char)) : List (List Char) :=
  segments.filter fun segment => !isTrivial segment

/-- These are the steps of a path as a whole. -/
def steps (path : Path) : List (List Char) :=
  stepsOf (segmentsOf path.characters)

@[simp] theorem stepsOf_append (first second : List (List Char)) :
    stepsOf (first ++ second) = stepsOf first ++ stepsOf second :=
  List.filter_append _ _

theorem stepsOf_eq_nil_iff (segments : List (List Char)) :
    stepsOf segments = [] ↔ ∀ segment ∈ segments, isTrivial segment = true := by
  simp [stepsOf]

@[simp] theorem steps_empty : steps ⟨[]⟩ = [] := rfl

theorem steps_append_slash (text rest : List Char) :
    steps ⟨text ++ '/' :: rest⟩ = steps ⟨text⟩ ++ steps ⟨rest⟩ := by
  rw [steps, segmentsOf_append_slash, stepsOf_append]
  rfl

theorem steps_of_name {name : List Char} (plain : '/' ∉ name) (names : isTrivial name = false) :
    steps ⟨name⟩ = [name] := by
  rw [steps, segmentsOf_of_plain plain, stepsOf, List.filter_singleton, names]
  rfl

theorem isTrivial_iff (segment : List Char) :
    isTrivial segment = true ↔ segment = [] ∨ segment = ['.'] := by
  rw [isTrivial, Bool.or_eq_true, beq_iff_eq, beq_iff_eq]

theorem steps_of_isTrivial {name : List Char} (trivial : isTrivial name = true) :
    steps ⟨name⟩ = [] := by
  rcases (isTrivial_iff name).mp trivial with rfl | rfl <;> rfl

theorem steps_plain (path : Path) :
    ∀ step ∈ path.steps, '/' ∉ step ∧ isTrivial step = false := by
  intro step member
  rw [steps, stepsOf, List.mem_filter] at member
  exact ⟨slash_not_mem_segmentsOf _ step member.1, by simpa using member.2⟩

theorem isAbsolute_iff (path : Path) :
    path.isAbsolute = true ↔ ∃ rest, path.characters = '/' :: rest := by
  rw [isAbsolute, beq_iff_eq, List.head?_eq_some_iff]

/-- The steps of a path are among its segments; the slash of the root makes no step. -/
theorem steps_eq (path : Path) : path.steps = stepsOf path.segments := by
  rw [segments]
  cases absolute : path.isAbsolute with
  | false => rfl
  | true =>
      obtain ⟨rest, text⟩ := (isAbsolute_iff path).mp absolute
      rw [steps, text, segmentsOf_slash]
      rfl

theorem join_of_relative {base path : Path} (relative : path.isAbsolute = false) :
    base.join path =
      if base.characters.isEmpty || base.characters.getLast? == some '/' then
        ⟨base.characters ++ path.characters⟩
      else ⟨base.characters ++ '/' :: path.characters⟩ := by
  rw [join, relative]
  rfl

/-- A relative path goes on from where its base leads. -/
theorem steps_join (base : Path) {path : Path} (relative : path.isAbsolute = false) :
    (base.join path).steps = base.steps ++ path.steps := by
  rw [join_of_relative relative]
  split
  · rename_i closed
    rw [Bool.or_eq_true, List.isEmpty_iff, beq_iff_eq, List.getLast?_eq_some_iff] at closed
    rcases closed with nothing | ⟨front, text⟩
    · have before : base.steps = [] := by
        rw [steps, nothing]
        rfl
      rw [nothing, before]
      rfl
    · have before : base.steps = steps ⟨front⟩ := by
        rw [steps, text, segmentsOf_append_slash, stepsOf_append]
        exact List.append_nil _
      rw [before, text, List.append_assoc, List.singleton_append, steps_append_slash]
  · exact steps_append_slash _ _

/-- A relative path does not make its base absolute, nor relative. -/
theorem isAbsolute_join (base : Path) {path : Path} (relative : path.isAbsolute = false) :
    (base.join path).isAbsolute = base.isAbsolute := by
  rw [join_of_relative relative]
  rcases base with ⟨text⟩
  cases text with
  | nil => simpa [isAbsolute] using relative
  | cons character text =>
      simp only [isAbsolute]
      split <;> rfl

theorem isAbsolute_of_name {name : List Char} (plain : '/' ∉ name) :
    isAbsolute ⟨name⟩ = false := by
  cases name with
  | nil => rfl
  | cons character name =>
      rw [List.mem_cons, not_or] at plain
      simpa [isAbsolute] using Ne.symm plain.1

theorem segments_plain (path : Path) : ∀ segment ∈ path.segments, '/' ∉ segment :=
  slash_not_mem_segmentsOf _

/-- The last segment of a path is the one behind its last slash. -/
theorem getLast?_segments (path : Path) :
    path.segments.getLast? = (segmentsOf path.characters).getLast? := by
  rw [segments]
  cases absolute : path.isAbsolute with
  | false => rfl
  | true =>
      obtain ⟨rest, text⟩ := (isAbsolute_iff path).mp absolute
      rw [text, segmentsOf_slash, List.getLast?_cons_of_ne_nil (segmentsOf_ne_nil rest)]
      rfl

/-- Behind a slash at the end stands an empty segment. -/
theorem getLast?_segments_of_slash {path : Path} (slash : path.characters.getLast? = some '/') :
    path.segments.getLast? = some [] := by
  obtain ⟨front, text⟩ := List.getLast?_eq_some_iff.mp slash
  rw [getLast?_segments, text, segmentsOf_append_slash]
  exact List.getLast?_concat

/-- A relative path that is put behind another one ends it. -/
theorem getLast?_segments_join_relative (base : Path) {path : Path}
    (relative : path.isAbsolute = false) :
    (base.join path).segments.getLast? = path.segments.getLast? := by
  have last (front : List Char) :
      (segmentsOf (front ++ '/' :: path.characters)).getLast? =
        (segmentsOf path.characters).getLast? := by
    rw [segmentsOf_append_slash, List.getLast?_append_of_ne_nil _ (segmentsOf_ne_nil _)]
  rw [getLast?_segments, getLast?_segments, join_of_relative relative]
  split
  · rename_i closed
    rw [Bool.or_eq_true, List.isEmpty_iff, beq_iff_eq, List.getLast?_eq_some_iff] at closed
    rcases closed with nothing | ⟨front, text⟩
    · rw [nothing, List.nil_append]
    · rw [text, List.append_assoc, List.singleton_append]
      exact last front
  · exact last _

/-- A name that is put behind a path is its last segment. -/
theorem getLast?_segments_join (base : Path) {name : List Char} (plain : '/' ∉ name) :
    (base.join ⟨name⟩).segments.getLast? = some name := by
  rw [getLast?_segments_join_relative base (isAbsolute_of_name plain), getLast?_segments,
    segmentsOf_of_plain plain, List.getLast?_singleton]

end SheetLint.Path
