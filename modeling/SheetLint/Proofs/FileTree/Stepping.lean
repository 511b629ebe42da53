/-
This file says how far the steps of a path lead. Steps that do not go up lead down by their own
names, so they can be told from the place that they lead to.
-/

import SheetLint.Proofs.FileTree.Climbing
import SheetLint.Proofs.FileTree.Files

namespace SheetLint.FileTree

variable {tree : FileTree} {current place further file target : Place} {root path whole : Path}

theorem mem_children_of_get? {name : List Char}
    (entry : (tree.get? (place ++ [name])).isSome = true) : name ∈ tree.children place := by
  obtain ⟨found, entry⟩ := Option.isSome_iff_exists.mp entry
  have listed : (place ++ [name], found) ∈ tree.entries := by
    rw [get?.eq_def] at entry
    split at entry
    · rename_i same
      simp at same
    · obtain ⟨front, rest, entries, -⟩ := List.lookup_eq_some_iff.mp entry
      rw [entries]
      exact List.mem_append_right _ List.mem_cons_self
  rw [children, List.mem_filterMap]
  exact ⟨_, listed, by simp⟩

/-- Going on by a name leads to that name. -/
theorem eq_of_step {segment : List Char} (stepped : tree.step place segment = .ok further)
    (names : Path.isTrivial segment = false) (down : segment ≠ ['.', '.']) :
    further = place ++ [segment] := by
  have arrives : tree.follow place [segment] = .ok further := by
    rw [follow, stepped]
    rfl
  exact follow_of_descending (by simp [names]) (by simpa using Ne.symm down) arrives

/-- What a step leads to exists, unless the step goes up. -/
theorem isSome_get?_of_step {segment : List Char} (stepped : tree.step place segment = .ok further)
    (down : segment ≠ ['.', '.']) : (tree.get? further).isSome = true := by
  have directory := isDirectoryAt_of_step stepped
  cases trivial : Path.isTrivial segment with
  | true =>
      rw [step_of_trivial directory trivial, Except.ok.injEq] at stepped
      rw [← stepped, eq_of_beq directory]
      rfl
  | false =>
      have there := eq_of_step stepped trivial down
      simp only [step, directory, trivial, beq_iff_eq, down, Bool.not_true, Bool.false_eq_true,
        if_false] at stepped
      split at stepped
      · simp at stepped
      · rw [there]
        by_contra missing
        rw [if_neg missing] at stepped
        simp at stepped

theorem length_le_of_step {segment : List Char} (stepped : tree.step place segment = .ok target) :
    target.length ≤ place.length + 1 ∧
      (segment = ['.', '.'] → target.length ≤ place.length) := by
  have directory := isDirectoryAt_of_step stepped
  cases trivial : Path.isTrivial segment with
  | true =>
      rw [step_of_trivial directory trivial, Except.ok.injEq] at stepped
      rw [stepped]
      exact ⟨Nat.le_succ _, fun _ => Nat.le_refl _⟩
  | false =>
      by_cases up : segment = ['.', '.']
      · subst up
        simp only [step, directory, trivial, Bool.not_true, Bool.false_eq_true, if_false,
          beq_self_eq_true, if_true, Except.ok.injEq] at stepped
        rw [← stepped, List.length_dropLast]
        omega
      · rw [eq_of_step stepped trivial up, List.length_append]
        exact ⟨Nat.le_refl _, fun same => absurd same up⟩

/-- Steps lead down by one name each at most, and less far if one of them goes up. -/
theorem length_le_of_follow {steps : List (List Char)}
    (arrives : tree.follow place steps = .ok target) :
    target.length ≤ place.length + steps.length ∧
      (['.', '.'] ∈ steps → target.length < place.length + steps.length) := by
  induction steps generalizing place with
  | nil =>
      obtain rfl := Except.ok.inj arrives
      exact ⟨Nat.le_refl _, nofun⟩
  | cons step steps inductionHypothesis =>
      rw [follow] at arrives
      cases stepped : tree.step place step with
      | error cause => simp [stepped] at arrives
      | ok further =>
          simp only [stepped] at arrives
          obtain ⟨most, less⟩ := inductionHypothesis arrives
          obtain ⟨one, none⟩ := length_le_of_step stepped
          rw [List.length_cons, List.mem_cons]
          refine ⟨by omega, ?_⟩
          rintro (up | later)
          · have stays := none up.symm
            omega
          · have rest := less later
            omega

/-- A path that does not go up leads to the names that it is made of. -/
theorem eq_origin_append_of_descending (descending : path.Descending)
    (arrives : tree.follow (path.origin current) path.steps = .ok place) :
    place = path.origin current ++ path.steps :=
  follow_of_descending (fun step member => (Path.steps_plain path step member).2) descending arrives

/-- A path with no more steps than a descending one that leads to the same place takes the same
steps. -/
theorem steps_eq_of_same_place (descending : whole.Descending)
    (resolved : tree.resolve current whole = .ok place)
    (found : tree.resolve current path = .ok place) (top : path.isAbsolute = whole.isAbsolute)
    (least : path.steps.length ≤ whole.steps.length) : path.steps = whole.steps := by
  have target := eq_origin_append_of_descending descending (follow_steps_of_resolve resolved)
  have arrives := follow_steps_of_resolve found
  have start : path.origin current = whole.origin current := by rw [Path.origin, Path.origin, top]
  have down : path.Descending := fun up => by
    have shorter := (length_le_of_follow arrives).2 up
    rw [target, start, List.length_append] at shorter
    omega
  have same := eq_origin_append_of_descending down arrives
  rw [target, start, List.append_cancel_left_eq] at same
  exact same.symm

/-- A path that takes the same steps to its last name leads to the same place. -/
theorem resolve_of_same_steps {other : Path} (resolved : tree.resolve current path = .ok file)
    (admitted : other.Admitted) (top : other.isAbsolute = path.isAbsolute)
    (same : other.steps = path.steps) {last : List Char}
    (ends : other.segments.getLast? = some last) (named : Path.isTrivial last = false) :
    tree.resolve current other = .ok file := by
  rw [resolve_eq_follow_steps admitted ends named, Path.origin, top, same]
  exact follow_steps_of_resolve resolved

/-- A path without steps leads to a directory. -/
theorem steps_ne_nil_of_isFileAt (resolved : tree.resolve current path = .ok file)
    (isFile : tree.isFileAt file = true) : path.steps ≠ [] := by
  intro nowhere
  have arrives := follow_steps_of_resolve resolved
  rw [resolve_of_admitted (admitted_of_resolve resolved)] at resolved
  have directory := isDirectoryAt_of_follow (Path.segmentsOf_ne_nil _) resolved
  rw [nowhere, follow, Except.ok.injEq] at arrives
  rw [arrives, not_isDirectoryAt_of_isFileAt isFile] at directory
  exact absurd directory (by decide)

/-- Without steps that go up, a directory and a file lie behind one start as their paths say. -/
theorem exists_start_of_descending (top : path.isAbsolute = root.isAbsolute)
    (reaches : tree.Reaches current root place) (plain : root.Descending)
    (resolved : tree.resolve current path = .ok file) (descending : path.Descending) :
    ∃ start, place = start ++ root.steps ∧ file = start ++ path.steps := by
  have start : path.origin current = root.origin current := by rw [Path.origin, Path.origin, top]
  refine ⟨root.origin current, eq_origin_append_of_descending plain reaches.arrives, ?_⟩
  rw [← start]
  exact eq_origin_append_of_descending descending (follow_steps_of_resolve resolved)

/-- Without steps that go up, a file lies under a directory exactly when its path begins with the
steps of the directory. -/
theorem isPrefix_iff_of_descending (top : path.isAbsolute = root.isAbsolute)
    (reaches : tree.Reaches current root place) (plain : root.Descending)
    (resolved : tree.resolve current path = .ok file) (descending : path.Descending) :
    place <+: file ↔ root.steps <+: path.steps := by
  obtain ⟨start, rfl, rfl⟩ := exists_start_of_descending top reaches plain resolved descending
  exact List.prefix_append_right_inj start

/-- What a path has behind the steps of a directory leads from there to its file. -/
theorem exists_rest_of_prefix (top : path.isAbsolute = root.isAbsolute)
    (reaches : tree.Reaches current root place) (plain : root.Descending)
    (resolved : tree.resolve current path = .ok file) (descending : path.Descending)
    (isFile : tree.isFileAt file = true) (begins : root.steps <+: path.steps) :
    ∃ rest, path.steps = root.steps ++ rest ∧ rest ≠ [] ∧ file = place ++ rest := by
  obtain ⟨start, there, rfl⟩ := exists_start_of_descending top reaches plain resolved descending
  obtain ⟨rest, whole⟩ := begins
  have behind : start ++ path.steps = place ++ rest := by
    rw [← whole, there, List.append_assoc]
  refine ⟨rest, whole.symm, ?_, behind⟩
  rintro rfl
  have other := not_isDirectoryAt_of_isFileAt isFile
  rw [behind, List.append_nil, reaches.directory] at other
  exact absurd other (by decide)

end SheetLint.FileTree
