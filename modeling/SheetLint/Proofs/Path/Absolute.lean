/-
This file relates the components of a path to its steps and shows that the absolute path leads, from
the top, where the path leads from the current directory. The absolute path and the way from a root
to a path hang on components, not on how these are spelled.
-/

import SheetLint.Proofs.Path.Segments

namespace SheetLint.Path

/-- This is what a path begins with before its steps. -/
def lead (path : Path) : List Component :=
  if path.isAbsolute then [.root] else if path.startsWithDot then [.current] else []

theorem components_eq (path : Path) :
    path.components = path.lead ++ path.steps.map componentOf := by
  rw [steps_eq]
  rfl

theorem componentOf_ne (step : List Char) :
    componentOf step ≠ .root ∧ componentOf step ≠ .current := by
  rw [componentOf]
  split <;> simp

@[simp] theorem text_componentOf (step : List Char) : (componentOf step).text = step := by
  rw [componentOf]
  split
  · rename_i up
    exact (beq_iff_eq.mp up).symm
  · rfl

theorem componentOf_injective : Function.Injective componentOf := by
  intro first second equal
  have texts := congrArg Component.text equal
  rwa [text_componentOf, text_componentOf] at texts

/-- Without the components that lead to no other place, the steps are left. -/
theorem filter_components (path : Path) :
    (path.components.filter (· != .current)).filter (· != .root) =
      path.steps.map componentOf := by
  have lead : (path.lead.filter (· != .current)).filter (· != .root) = [] := by
    rw [Path.lead]
    split
    · rfl
    · split <;> rfl
  have kept : ((path.steps.map componentOf).filter (· != .current)).filter (· != .root) =
      path.steps.map componentOf := by
    rw [List.filter_filter, List.filter_eq_self]
    intro component member
    obtain ⟨step, -, rfl⟩ := List.mem_map.mp member
    simp [componentOf_ne step]
  rw [components_eq, List.filter_append, List.filter_append, lead, kept, List.nil_append]

theorem root_mem_components_iff (path : Path) :
    Component.root ∈ path.components ↔ path.isAbsolute = true := by
  have steps : Component.root ∉ path.steps.map componentOf := by
    rw [List.mem_map]
    rintro ⟨step, -, root⟩
    exact (componentOf_ne step).1 root
  rw [components_eq, List.mem_append, or_iff_left steps, lead]
  cases path.isAbsolute with
  | true => simp
  | false =>
      cases path.startsWithDot <;> simp

/-- Paths with the same components start at the same place and take the same steps. -/
theorem same_of_components {path other : Path} (same : path.components = other.components) :
    path.isAbsolute = other.isAbsolute ∧ path.steps = other.steps := by
  constructor
  · rw [Bool.eq_iff_iff, ← root_mem_components_iff, ← root_mem_components_iff, same]
  · have steps := filter_components path
    rw [same, filter_components] at steps
    exact componentOf_injective.list_map steps.symm

/-- This is a path with names put behind it one after the other. -/
def joinAll (base : Path) (names : List (List Char)) : Path :=
  names.foldl (fun path name => path.join ⟨name⟩) base

theorem isAbsolute_joinAll (base : Path) {names : List (List Char)}
    (plain : ∀ name ∈ names, '/' ∉ name) : (base.joinAll names).isAbsolute = base.isAbsolute := by
  induction names generalizing base with
  | nil => rfl
  | cons name names inductionHypothesis =>
      rw [List.forall_mem_cons] at plain
      exact (inductionHypothesis _ plain.2).trans
        (isAbsolute_join base (isAbsolute_of_name plain.1))

theorem steps_joinAll (base : Path) {names : List (List Char)}
    (plain : ∀ name ∈ names, '/' ∉ name ∧ isTrivial name = false) :
    (base.joinAll names).steps = base.steps ++ names := by
  induction names generalizing base with
  | nil => exact (List.append_nil _).symm
  | cons name names inductionHypothesis =>
      rw [List.forall_mem_cons] at plain
      have first := steps_join base (isAbsolute_of_name plain.1.1)
      rw [steps_of_name plain.1.1 plain.1.2] at first
      exact (inductionHypothesis _ plain.2).trans (by rw [first, List.append_assoc]; rfl)

/-- This is what an absolute path begins with: two slashes only where they are written. -/
def absoluteStart (current path : Path) : Path :=
  if !path.isAbsolute then current
  else if path.characters.take 2 == ['/', '/'] && path.characters.take 3 != ['/', '/', '/'] then
    ⟨['/', '/']⟩
  else ⟨['/']⟩

/-- The absolute path is its start with the steps of the path behind it, and a slash where the path
ends in one. -/
theorem absolute_eq (current path : Path) :
    absolute current path =
      let whole := (absoluteStart current path).joinAll path.steps
      if path.characters.getLast? == some '/' then whole.join ⟨[]⟩ else whole := by
  have steps := filter_components path
  rw [absolute]
  simp only [steps, List.foldl_map, text_componentOf]
  rfl

theorem isAbsolute_absoluteStart {current : Path} (top : current.isAbsolute = true) (path : Path) :
    (absoluteStart current path).isAbsolute = true := by
  rw [absoluteStart]
  split
  · exact top
  · split <;> rfl

theorem steps_absoluteStart (current path : Path) :
    (absoluteStart current path).steps = if path.isAbsolute then [] else current.steps := by
  rw [absoluteStart]
  cases path.isAbsolute with
  | false => rfl
  | true =>
      rw [if_neg (by decide)]
      split <;> rfl

theorem isAbsolute_absolute {current : Path} (top : current.isAbsolute = true) (path : Path) :
    (absolute current path).isAbsolute = true := by
  have whole := isAbsolute_joinAll (absoluteStart current path)
    (fun step member => (steps_plain path step member).1)
  rw [isAbsolute_absoluteStart top] at whole
  rw [absolute_eq]
  dsimp only
  split
  · rw [isAbsolute_join _ (by rfl), whole]
  · exact whole

/-- The steps of a relative path come behind those of the current directory. -/
theorem steps_absolute (current path : Path) :
    (absolute current path).steps =
      (if path.isAbsolute then [] else current.steps) ++ path.steps := by
  have whole := steps_joinAll (absoluteStart current path) (steps_plain path)
  rw [steps_absoluteStart] at whole
  rw [absolute_eq]
  dsimp only
  split
  · rw [steps_join _ (by rfl), steps_empty, List.append_nil, whole]
  · exact whole

/-- The last step of a path that does not end in a slash is the last segment of its absolute form. -/
theorem getLast?_segments_absolute (current : Path) {path : Path}
    (ends : path.characters.getLast? ≠ some '/') {front : List (List Char)} {name : List Char}
    (steps : path.steps = front ++ [name]) :
    (absolute current path).segments.getLast? = some name := by
  have member : name ∈ path.steps := by
    rw [steps]
    exact List.mem_append_right _ List.mem_cons_self
  rw [absolute_eq]
  dsimp only
  rw [if_neg (by simpa using ends), steps, joinAll, List.foldl_append]
  exact getLast?_segments_join _ (steps_plain path name member).1

/-- The absolute path hangs on the components alone, except for two slashes at the start and a slash
at the end. -/
theorem absolute_of_components {path other : Path} (same : path.components = other.components)
    (single : path.characters.take 2 ≠ ['/', '/'])
    (single' : other.characters.take 2 ≠ ['/', '/'])
    (ends : path.characters.getLast? ≠ some '/')
    (ends' : other.characters.getLast? ≠ some '/') (current : Path) :
    absolute current path = absolute current other := by
  obtain ⟨root, steps⟩ := same_of_components same
  have start : absoluteStart current path = absoluteStart current other := by
    simp [absoluteStart, root, single, single']
  rw [absolute_eq, absolute_eq]
  simp [ends, ends', start, steps]

/-- The path starts from the top or not as the root does, and its way from the root goes down. -/
def LiesUnder (path root : Path) : Prop :=
  path.isAbsolute = root.isAbsolute ∧
    ∃ relative, path.relativeTo? root = some relative ∧
      relative.components.head? ≠ some .parent

/-- A file under the root is shown by its components. -/
theorem displayUnder_of_components {path other root : Path}
    (same : path.components = other.components) (under : path.LiesUnder root) :
    path.displayUnder root = other.displayUnder root := by
  obtain ⟨top, relative, way, down⟩ := under
  have top' := (same_of_components same).1.symm.trans top
  have way' : other.relativeTo? root = some relative := by
    rw [relativeTo?, if_pos (beq_iff_eq.mpr top'), ← same]
    rwa [relativeTo?, if_pos (beq_iff_eq.mpr top)] at way
  rw [displayUnder, displayUnder, way, way']
  dsimp only
  rw [if_neg (by simpa using down), if_neg (by simpa using down)]

end SheetLint.Path
