/-
This file is about the paths that lead to files: none of them ends in a slash, and spellings of the
same components lead to one file.
-/

import SheetLint.Proofs.FileTree.Denoting

namespace SheetLint.FileTree

/-- There is a file at the place, be it a program of the system or not. -/
def isFileAt (tree : FileTree) (place : Place) : Bool :=
  match tree.get? place with
  | some (.file _ _) => true
  | some (.command _) => true
  | _ => false

variable {tree : FileTree} {current : Place}

theorem isFile_eq (tree : FileTree) (current : Place) (path : Path) :
    tree.isFile current path =
      match tree.resolve current path with
      | .ok file => tree.isFileAt file
      | .error _ => false := by
  rw [isFile, lookup?]
  cases tree.resolve current path <;> rfl

theorem isFile_of_resolve {path : Path} {place : Place}
    (resolved : tree.resolve current path = .ok place) :
    tree.isFile current path = tree.isFileAt place := by
  rw [isFile_eq, resolved]

theorem not_isDirectoryAt_of_isFileAt {place : Place} (file : tree.isFileAt place = true) :
    tree.isDirectoryAt place = false := by
  by_contra directory
  rw [Bool.not_eq_false, isDirectoryAt, beq_iff_eq] at directory
  simp [isFileAt, directory] at file

theorem exists_of_isFile {path : Path} (file : tree.isFile current path = true) :
    ∃ place, tree.resolve current path = .ok place ∧ tree.isFileAt place = true := by
  rw [isFile_eq] at file
  cases resolved : tree.resolve current path with
  | error cause => simp [resolved] at file
  | ok place => exact ⟨place, rfl, by simpa [resolved] using file⟩

/-- What can be read is there and is not a directory. -/
theorem exists_resolve_of_readText {path : Path} {text : String}
    (read : tree.readText current path = .ok text) :
    ∃ file, tree.resolve current path = .ok file ∧ tree.isDirectoryAt file = false := by
  rw [readText, readBytes] at read
  cases resolved : tree.resolve current path with
  | error cause => simp [resolved] at read
  | ok file =>
      refine ⟨file, rfl, ?_⟩
      by_contra directory
      rw [Bool.not_eq_false, isDirectoryAt, beq_iff_eq] at directory
      simp [resolved, directory] at read

theorem exists_of_readText {path : Path} {text : String}
    (read : tree.readText current path = .ok text) :
    ∃ file, tree.follow (path.origin current) path.steps = .ok file ∧
      tree.isDirectoryAt file = false := by
  obtain ⟨file, resolved, other⟩ := exists_resolve_of_readText read
  exact ⟨file, follow_steps_of_resolve resolved, other⟩

/-- An empty segment at the end could only stand behind a directory. -/
theorem getLast?_segments_ne_of_isFileAt {path : Path} {place : Place}
    (resolved : tree.resolve current path = .ok place) (file : tree.isFileAt place = true) :
    path.segments.getLast? ≠ some [] := by
  intro last
  have other := not_isDirectoryAt_of_isFileAt file
  rw [(resolve_eq_ok_iff.mp resolved).2.isDirectoryAt last rfl] at other
  exact absurd other (by decide)

/-- Behind a slash at the end there would have to be a directory. -/
theorem getLast?_ne_slash_of_isFile {path : Path} (file : tree.isFile current path = true) :
    path.characters.getLast? ≠ some '/' := by
  intro closed
  obtain ⟨place, resolved, file⟩ := exists_of_isFile file
  exact getLast?_segments_ne_of_isFileAt resolved file (Path.getLast?_segments_of_slash closed)

/-- Two spellings that both lead to a file lead to the same one. -/
theorem resolve_of_components {path other : Path} (same : path.components = other.components)
    (file : tree.isFile current path = true) (file' : tree.isFile current other = true) :
    tree.resolve current path = tree.resolve current other := by
  obtain ⟨root, steps⟩ := Path.same_of_components same
  obtain ⟨place, resolved, -⟩ := exists_of_isFile file
  obtain ⟨place', resolved', -⟩ := exists_of_isFile file'
  have arrives := follow_steps_of_resolve resolved
  have arrives' := follow_steps_of_resolve resolved'
  rw [Path.origin, root, steps] at arrives
  rw [Path.origin, arrives, Except.ok.injEq] at arrives'
  rw [resolved, resolved', arrives']

theorem readText_of_components {path other : Path} (same : path.components = other.components)
    (file : tree.isFile current path = true) (file' : tree.isFile current other = true) :
    tree.readText current path = tree.readText current other := by
  rw [readText, readText, readBytes, readBytes, resolve_of_components same file file']

end SheetLint.FileTree
