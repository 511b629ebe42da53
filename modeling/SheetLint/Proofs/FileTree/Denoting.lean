/-
This file compares a path with its absolute form. Where the path leads from the current directory,
the absolute one leads from anywhere.
-/

import SheetLint.Proofs.FileTree.Following
import SheetLint.Proofs.Path.Absolute

namespace SheetLint.FileTree

variable {tree : FileTree} {current place : Place} {path : Path}

/-- A path of any length denotes the place that its segments lead to. -/
def Denotes (tree : FileTree) (current : Place) (path : Path) (place : Place) : Prop :=
  tree.follow (path.origin current) path.segments = .ok place

/-- The system takes a path to what it denotes, unless it does not take the path at all. -/
theorem resolve_eq_ok_iff :
    tree.resolve current path = .ok place ↔ path.Admitted ∧ tree.Denotes current path place := by
  constructor
  · intro resolved
    have admitted := admitted_of_resolve resolved
    rw [resolve_of_admitted admitted] at resolved
    exact ⟨admitted, resolved⟩
  · rintro ⟨admitted, denotes⟩
    rw [resolve_of_admitted admitted]
    exact denotes

/-- What stands before a segment that leads nowhere is a directory. -/
theorem Denotes.isDirectoryAt (denotes : tree.Denotes current path place) {segment : List Char}
    (last : path.segments.getLast? = some segment) (trivial : Path.isTrivial segment = true) :
    tree.isDirectoryAt place = true := by
  obtain ⟨front, ends⟩ := List.getLast?_eq_some_iff.mp last
  rw [Denotes, ends] at denotes
  obtain ⟨further, -, behind⟩ := exists_of_follow_append denotes
  have directory := isDirectoryAt_of_follow (List.cons_ne_nil _ _) behind
  have stays : tree.follow further [segment] = .ok further := by
    rw [follow, step_of_trivial directory trivial]
    rfl
  rw [stays, Except.ok.injEq] at behind
  rwa [← behind]

theorem Denotes.follow_steps (denotes : tree.Denotes current path place) :
    tree.follow (path.origin current) path.steps = .ok place := by
  rw [Path.steps_eq]
  exact follow_stepsOf denotes

/-- A path denotes the directory that its steps lead to. -/
theorem denotes_of_directory (arrives : tree.follow (path.origin current) path.steps = .ok place)
    (directory : tree.isDirectoryAt place = true) : tree.Denotes current path place := by
  rw [Path.steps_eq] at arrives
  exact follow_of_stepsOf arrives directory

/-- A path with a name at its end denotes whatever its steps lead to. -/
theorem denotes_of_name {name : List Char} (last : path.segments.getLast? = some name)
    (names : Path.isTrivial name = false)
    (arrives : tree.follow (path.origin current) path.steps = .ok place) :
    tree.Denotes current path place := by
  obtain ⟨front, ends⟩ := List.getLast?_eq_some_iff.mp last
  rw [Path.steps_eq, ends, Path.stepsOf_append, stepsOf_cons_of_not_trivial names] at arrives
  rw [Denotes, ends, ← follow_stepsOf_append _ _ _ (List.cons_ne_nil _ _)]
  exact arrives

/-- The absolute path leads, from the top, where the path leads from the current directory. -/
theorem follow_absolute (here : tree.Reaches [] current.path current) (path : Path) :
    tree.follow [] (Path.absolute current.path path).steps =
      tree.follow (path.origin current) path.steps := by
  have arrives : tree.follow [] current.path.steps = .ok current := here.arrives
  rw [Path.steps_absolute, Path.origin]
  cases path.isAbsolute with
  | true => rfl
  | false => exact follow_append_of_ok arrives

theorem isDirectoryAt_origin (directory : tree.isDirectoryAt current = true) :
    tree.isDirectoryAt (path.origin current) = true := by
  rw [Path.origin]
  split
  · rfl
  · exact directory

/-- From anywhere, the absolute path denotes what the path denotes from the current directory. -/
theorem Denotes.absolute (here : tree.Reaches [] current.path current)
    (denotes : tree.Denotes current path place) (other : Place) :
    tree.Denotes other (Path.absolute current.path path) place := by
  have arrives := denotes.follow_steps
  have whole : tree.follow ((Path.absolute current.path path).origin other)
      (Path.absolute current.path path).steps = .ok place := by
    rw [Path.origin, Path.isAbsolute_absolute rfl, if_pos rfl, follow_absolute here, arrives]
  cases directory : tree.isDirectoryAt place with
  | true => exact denotes_of_directory whole directory
  | false =>
      -- the path to something else goes somewhere, and nothing stands behind its last step
      have somewhere : path.steps ≠ [] := by
        intro nowhere
        rw [nowhere, follow, Except.ok.injEq] at arrives
        rw [← arrives, isDirectoryAt_origin here.directory] at directory
        exact absurd directory (by decide)
      have ends : path.characters.getLast? ≠ some '/' := by
        intro slash
        rw [denotes.isDirectoryAt (Path.getLast?_segments_of_slash slash) rfl] at directory
        exact absurd directory (by decide)
      obtain ⟨front, name, steps⟩ := (List.eq_nil_or_concat' path.steps).resolve_left somewhere
      have member : name ∈ path.steps := by
        rw [steps]
        exact List.mem_append_right _ List.mem_cons_self
      have last := Path.getLast?_segments_absolute current.path ends steps
      exact denotes_of_name last (Path.steps_plain path name member).2 whole

end SheetLint.FileTree
