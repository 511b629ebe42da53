/-
This file shows how paths are followed through a tree: what a path leads to hangs on its steps, and
a way through the tree can be cut in two.
-/

import SheetLint.FileTree
import SheetLint.Proofs.Path.Segments

namespace SheetLint

namespace Text

theorem byteCount_cons (character : Char) (text : List Char) :
    byteCount (character :: text) = character.utf8Size + byteCount text := by
  have shift (start : Nat) (text : List Char) :
      text.foldl (fun count character => count + character.utf8Size) start =
        start + byteCount text := by
    induction text generalizing start with
    | nil => rfl
    | cons character text inductionHypothesis =>
        rw [byteCount, List.foldl_cons, List.foldl_cons, inductionHypothesis,
          inductionHypothesis (0 + character.utf8Size)]
        omega
  rw [byteCount, List.foldl_cons, shift, Nat.zero_add]

theorem byteCount_append (first second : List Char) :
    byteCount (first ++ second) = byteCount first + byteCount second := by
  induction first with
  | nil => exact (Nat.zero_add _).symm
  | cons character first inductionHypothesis =>
      rw [List.cons_append, byteCount_cons, byteCount_cons, inductionHypothesis, Nat.add_assoc]

theorem byteCount_le_of_prefix {first text : List Char} (begins : first <+: text) :
    byteCount first ≤ byteCount text := by
  obtain ⟨rest, whole⟩ := begins
  rw [← whole, byteCount_append]
  exact Nat.le_add_right _ _

end Text

/-- The system takes a path at all: there is something in it, no zero, and it is not too long. -/
structure Path.Admitted (path : Path) : Prop where
  someText : path.characters ≠ []
  zeroFree : '\u0000' ∉ path.characters
  short : Text.byteCount path.characters < FileTree.pathLimit

/-- This is the place from which a path is followed. -/
def Path.origin (path : Path) (current : Place) : Place :=
  if path.isAbsolute then [] else current

namespace FileTree

variable {tree : FileTree} {current place target : Place}

theorem isDirectoryAt_of_step {segment : List Char}
    (stepped : tree.step place segment = .ok target) : tree.isDirectoryAt place = true := by
  by_contra other
  rw [Bool.not_eq_true] at other
  simp [step, other] at stepped

theorem step_of_trivial (directory : tree.isDirectoryAt place = true) {segment : List Char}
    (trivial : Path.isTrivial segment = true) : tree.step place segment = .ok place := by
  simp [step, directory, trivial]

theorem follow_append (tree : FileTree) (place : Place) (first second : List (List Char)) :
    tree.follow place (first ++ second) =
      (tree.follow place first).bind fun further => tree.follow further second := by
  induction first generalizing place with
  | nil => rfl
  | cons segment first inductionHypothesis =>
      rw [List.cons_append, follow, follow]
      cases tree.step place segment with
      | error cause => rfl
      | ok further => exact inductionHypothesis further

/-- A way that arrives passes a place at every cut. -/
theorem exists_of_follow_append {first second : List (List Char)}
    (arrives : tree.follow place (first ++ second) = .ok target) :
    ∃ further, tree.follow place first = .ok further ∧
      tree.follow further second = .ok target := by
  rw [follow_append] at arrives
  cases halfway : tree.follow place first with
  | error cause => simp [halfway, Except.bind] at arrives
  | ok further => exact ⟨further, rfl, by simpa [halfway, Except.bind] using arrives⟩

theorem follow_append_of_ok {first second : List (List Char)} {further : Place}
    (halfway : tree.follow place first = .ok further) :
    tree.follow place (first ++ second) = tree.follow further second := by
  rw [follow_append, halfway]
  rfl

/-- Only a directory can be left. -/
theorem isDirectoryAt_of_follow {segments : List (List Char)} (some : segments ≠ [])
    (arrives : tree.follow place segments = .ok target) : tree.isDirectoryAt place = true := by
  cases segments with
  | nil => exact absurd rfl some
  | cons segment segments =>
      rw [follow] at arrives
      cases stepped : tree.step place segment with
      | error cause => simp [stepped] at arrives
      | ok further => exact isDirectoryAt_of_step stepped

theorem follow_of_not_directory (other : tree.isDirectoryAt place = false)
    {segments : List (List Char)} (some : segments ≠ []) :
    tree.follow place segments = .error .notDirectory := by
  cases segments with
  | nil => exact absurd rfl some
  | cons segment segments => simp [follow, step, other]

theorem stepsOf_cons_of_trivial {segment : List Char}
    (trivial : Path.isTrivial segment = true) (segments : List (List Char)) :
    Path.stepsOf (segment :: segments) = Path.stepsOf segments := by
  simp [Path.stepsOf, trivial]

theorem stepsOf_cons_of_not_trivial {segment : List Char}
    (names : Path.isTrivial segment = false) (segments : List (List Char)) :
    Path.stepsOf (segment :: segments) = segment :: Path.stepsOf segments := by
  simp [Path.stepsOf, names]

/-- With more to follow, the segments that lead nowhere make no difference at all: they fail where
the next step would have failed. -/
theorem follow_stepsOf_append (tree : FileTree) (place : Place) (segments : List (List Char))
    {rest : List (List Char)} (more : rest ≠ []) :
    tree.follow place (Path.stepsOf segments ++ rest) = tree.follow place (segments ++ rest) := by
  induction segments generalizing place with
  | nil => rfl
  | cons segment segments inductionHypothesis =>
      cases trivial : Path.isTrivial segment with
      | true =>
          rw [stepsOf_cons_of_trivial trivial, inductionHypothesis]
          cases directory : tree.isDirectoryAt place with
          | true => rw [List.cons_append, follow, step_of_trivial directory trivial]
          | false =>
              rw [follow_of_not_directory directory (by simp [more]),
                follow_of_not_directory directory (by simp)]
      | false =>
          rw [stepsOf_cons_of_not_trivial trivial, List.cons_append, List.cons_append, follow,
            follow]
          cases tree.step place segment with
          | error cause => rfl
          | ok further => exact inductionHypothesis further

/-- Following only the steps arrives wherever following all segments does. -/
theorem follow_stepsOf {segments : List (List Char)}
    (arrives : tree.follow place segments = .ok target) :
    tree.follow place (Path.stepsOf segments) = .ok target := by
  induction segments generalizing place with
  | nil => exact arrives
  | cons segment segments inductionHypothesis =>
      rw [follow] at arrives
      cases stepped : tree.step place segment with
      | error cause => simp [stepped] at arrives
      | ok further =>
          simp only [stepped] at arrives
          cases trivial : Path.isTrivial segment with
          | true =>
              have stays := step_of_trivial (isDirectoryAt_of_step stepped) trivial
              rw [stepped, Except.ok.injEq] at stays
              rw [stepsOf_cons_of_trivial trivial, ← stays]
              exact inductionHypothesis arrives
          | false =>
              rw [stepsOf_cons_of_not_trivial trivial, follow, stepped]
              exact inductionHypothesis arrives

/-- At a directory, following all segments arrives wherever following only the steps does. -/
theorem follow_of_stepsOf {segments : List (List Char)}
    (arrives : tree.follow place (Path.stepsOf segments) = .ok target)
    (directory : tree.isDirectoryAt target = true) :
    tree.follow place segments = .ok target := by
  have further : tree.follow place (segments ++ [[]]) = .ok target := by
    rw [← follow_stepsOf_append _ _ _ (List.cons_ne_nil _ _), follow_append_of_ok arrives, follow,
      step_of_trivial directory rfl]
    rfl
  obtain ⟨place', before, last⟩ := exists_of_follow_append further
  have stays : tree.step place' [] = .ok place' :=
    step_of_trivial (isDirectoryAt_of_follow (by simp) last) rfl
  rw [follow, stays] at last
  rw [before, ← last]
  rfl

theorem resolve_of_admitted {path : Path} (admitted : path.Admitted) (tree : FileTree)
    (current : Place) :
    tree.resolve current path = tree.follow (path.origin current) path.segments := by
  have zeroFree := admitted.zeroFree
  have someText := admitted.someText
  have short := admitted.short
  rw [resolve, if_neg (by simpa using zeroFree), if_neg (by simpa using someText),
    if_neg (by omega)]
  rfl

theorem admitted_of_resolve {path : Path} (resolved : tree.resolve current path = .ok place) :
    path.Admitted := by
  rw [resolve] at resolved
  split at resolved
  · simp at resolved
  · split at resolved
    · simp at resolved
    · split at resolved
      · simp at resolved
      · rename_i zero empty long
        exact ⟨by simpa using empty, by simpa using zero, by omega⟩

/-- A path leads where its steps lead. -/
theorem follow_steps_of_resolve {path : Path} (resolved : tree.resolve current path = .ok place) :
    tree.follow (path.origin current) path.steps = .ok place := by
  rw [resolve_of_admitted (admitted_of_resolve resolved)] at resolved
  rw [Path.steps_eq]
  exact follow_stepsOf resolved

/-- A path whose last segment is a name succeeds and fails with its steps. -/
theorem resolve_eq_follow_steps {path : Path} (admitted : path.Admitted) {name : List Char}
    (last : path.segments.getLast? = some name) (names : Path.isTrivial name = false)
    (tree : FileTree) (current : Place) :
    tree.resolve current path = tree.follow (path.origin current) path.steps := by
  obtain ⟨front, ends⟩ := List.getLast?_eq_some_iff.mp last
  rw [resolve_of_admitted admitted, Path.steps_eq, ends, Path.stepsOf_append,
    stepsOf_cons_of_not_trivial names, ← follow_stepsOf_append _ _ _ (List.cons_ne_nil _ _)]
  rfl

/-- A relative path is followed from where the path before it is followed. -/
theorem origin_join (base : Path) {path : Path} (relative : path.isAbsolute = false)
    (current : Place) : (base.join path).origin current = base.origin current := by
  rw [Path.origin, Path.origin, Path.isAbsolute_join base relative]

/-- The path leads to this directory, as far as other paths can go on from it. -/
structure Reaches (tree : FileTree) (current : Place) (path : Path) (place : Place) : Prop where
  arrives : tree.follow (path.origin current) path.steps = .ok place
  directory : tree.isDirectoryAt place = true

theorem reaches_of_resolve {path : Path} (resolved : tree.resolve current path = .ok place)
    (directory : tree.isDirectoryAt place = true) : tree.Reaches current path place :=
  ⟨follow_steps_of_resolve resolved, directory⟩

/-- A path that the system takes resolves to the directory that it reaches. -/
theorem Reaches.resolve {path : Path} (reaches : tree.Reaches current path place)
    (admitted : path.Admitted) : tree.resolve current path = .ok place := by
  rw [resolve_of_admitted admitted]
  apply follow_of_stepsOf _ reaches.directory
  rw [← Path.steps_eq]
  exact reaches.arrives

end FileTree

end SheetLint
