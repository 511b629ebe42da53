/-
This file finds in the text of a path the name that it ends in, and in a name its stem and its
extension.
-/

import Mathlib.Data.List.TakeWhile
import SheetLint.Proofs.Path.Absolute

namespace SheetLint.Path

/-- At the end of a path these texts name nothing: slashes, and lone dots behind slashes. -/
inductive Idle : List Char → Prop where
  | nil : Idle []
  | slash {rest : List Char} (later : Idle rest) : Idle ('/' :: rest)
  | dot {rest : List Char} (later : Idle rest) : Idle ('/' :: '.' :: rest)

/-- The path ends in this component: it stands between a front with a slash at its end, or none, and
an idle rest. -/
structure EndsIn (path : Path) (front name rest : List Char) : Prop where
  run : Text.Run '/' path.characters front name rest
  filled : name ≠ []
  notDot : name ≠ ['.']
  idle : Idle rest

theorem steps_append_idle {rest : List Char} (idle : Idle rest) (text : List Char) :
    steps ⟨text ++ rest⟩ = steps ⟨text⟩ := by
  induction idle generalizing text with
  | nil => rw [List.append_nil]
  | slash later inductionHypothesis =>
      have nothing := inductionHypothesis []
      rw [List.nil_append, steps_empty] at nothing
      rw [steps_append_slash, nothing, List.append_nil]
  | dot later inductionHypothesis =>
      have nothing : steps ⟨['.'] ++ _⟩ = [] := inductionHypothesis ['.']
      rw [List.singleton_append] at nothing
      rw [steps_append_slash, nothing, List.append_nil]

/-- A path that ends in a name takes its last step there. -/
theorem EndsIn.exists_steps {path : Path} {front name rest : List Char}
    (ends : path.EndsIn front name rest) : ∃ earlier, path.steps = earlier ++ [name] := by
  obtain ⟨⟨whole, plain, opens, -⟩, filled, notDot, idle⟩ := ends
  have names : isTrivial name = false := by
    rw [Bool.eq_false_iff, Ne, isTrivial_iff, not_or]
    exact ⟨filled, notDot⟩
  have path_eq : path.steps = steps ⟨front ++ name⟩ := by
    rw [← steps_append_idle idle (front ++ name), ← whole]
  rw [path_eq]
  rcases opens with rfl | ⟨earlier, rfl⟩
  · exact ⟨[], steps_of_name plain names⟩
  · refine ⟨steps ⟨earlier⟩, ?_⟩
    rw [List.append_assoc, List.singleton_append, steps_append_slash, steps_of_name plain names]

theorem idle_of_isTrivial {segments : List (List Char)}
    (trivial : ∀ segment ∈ segments, isTrivial segment = true) :
    Idle (segments.flatMap ('/' :: ·)) := by
  induction segments with
  | nil => exact .nil
  | cons segment segments inductionHypothesis =>
      rw [List.forall_mem_cons, isTrivial_iff] at trivial
      have later := inductionHypothesis trivial.2
      rw [List.flatMap_cons]
      rcases trivial.1 with rfl | rfl
      · exact .slash later
      · exact .dot later

/-- The last step of a path is a name that it ends in. -/
theorem exists_endsIn_of_steps {path : Path} {earlier : List (List Char)} {name : List Char}
    (steps : path.steps = earlier ++ [name]) : ∃ front rest, path.EndsIn front name rest := by
  obtain ⟨plain, names⟩ :=
    path.steps_plain name (steps ▸ List.mem_append_right _ List.mem_cons_self)
  rw [Bool.eq_false_iff, Ne, isTrivial_iff, not_or] at names
  obtain ⟨before, behind, cut, -, last⟩ := List.filter_eq_append_iff.mp steps
  obtain ⟨gap, after, whole, -, -, nowhere⟩ := List.filter_eq_cons_iff.mp last
  change stepsOf after = [] at nowhere
  rw [stepsOf_eq_nil_iff] at nowhere
  refine ⟨(before ++ gap).flatMap (· ++ ['/']), after.flatMap ('/' :: ·),
    ⟨?_, plain, ?_, ?_⟩, names.1, names.2, idle_of_isTrivial nowhere⟩
  · rw [← joinSegments_around, List.append_assoc, ← whole, ← cut, joinSegments_segmentsOf]
  · rcases List.eq_nil_or_concat' (before ++ gap) with none | ⟨others, segment, some⟩
    · exact Or.inl (by rw [none]; rfl)
    · refine Or.inr ⟨others.flatMap (· ++ ['/']) ++ segment, ?_⟩
      rw [some]
      simp
  · cases after with
    | nil => exact Or.inl rfl
    | cons segment after => exact Or.inr ⟨_, List.flatMap_cons⟩

theorem fileName?_of_steps {path : Path} {earlier : List (List Char)} {name : List Char}
    (steps : path.steps = earlier ++ [name]) :
    path.fileName? = if name = ['.', '.'] then none else some name := by
  have last : path.components.getLast? = some (componentOf name) := by
    rw [components_eq, steps, List.map_append, List.map_singleton, ← List.append_assoc,
      List.getLast?_concat]
  rw [fileName?, last, componentOf]
  by_cases up : name = ['.', '.'] <;> simp [up]

theorem fileName?_of_nowhere {path : Path} (nowhere : path.steps = []) : path.fileName? = none := by
  rw [fileName?, components_eq, nowhere, List.map_nil, List.append_nil, lead]
  cases path.isAbsolute <;> cases path.startsWithDot <;> rfl

theorem EndsIn.fileName? {path : Path} {front name rest : List Char}
    (ends : path.EndsIn front name rest) :
    path.fileName? = if name = ['.', '.'] then none else some name := by
  obtain ⟨earlier, steps⟩ := ends.exists_steps
  exact fileName?_of_steps steps

/-- The file name is the name that the path ends in. -/
theorem fileName?_eq_some_iff (path : Path) (name : List Char) :
    path.fileName? = some name ↔
      name ≠ ['.', '.'] ∧ ∃ front rest, path.EndsIn front name rest := by
  constructor
  · intro named
    rcases List.eq_nil_or_concat' path.steps with nowhere | ⟨earlier, last, steps⟩
    · rw [fileName?_of_nowhere nowhere] at named
      simp at named
    · rw [fileName?_of_steps steps, Option.ite_none_left_eq_some, Option.some.injEq] at named
      obtain ⟨notUp, rfl⟩ := named
      exact ⟨notUp, exists_endsIn_of_steps steps⟩
  · rintro ⟨notUp, front, rest, ends⟩
    rw [ends.fileName?, if_neg notUp]

/-- A path goes on to end in its last name when directories are put in front of it. -/
theorem EndsIn.behind {path : Path} {front name rest : List Char}
    (ends : path.EndsIn front name rest) (directories : List Char) :
    EndsIn ⟨directories ++ '/' :: path.characters⟩ (directories ++ '/' :: front) name rest where
  run := ends.run.behind directories
  filled := ends.filled
  notDot := ends.notDot
  idle := ends.idle

/-- The last name can be replaced. -/
theorem EndsIn.rename {path : Path} {front name rest other : List Char}
    (ends : path.EndsIn front name rest) (plain : '/' ∉ other) (filled : other ≠ [])
    (notDot : other ≠ ['.']) : EndsIn ⟨front ++ other ++ rest⟩ front other rest where
  run := ⟨rfl, plain, ends.run.opens, ends.run.closes⟩
  filled := filled
  notDot := notDot
  idle := ends.idle

theorem bne_dot_of_dotFree {text : List Char} (dotFree : '.' ∉ text) :
    ∀ character ∈ text.reverse, (character != '.') = true := by
  intro character member
  rw [List.mem_reverse] at member
  exact bne_iff_ne.mpr fun dot => dotFree (dot ▸ member)

theorem extensionOf?_append_dot (stem : List Char) {extension : List Char}
    (dotFree : '.' ∉ extension) :
    extensionOf? (stem ++ '.' :: extension) = if stem = [] then none else some extension := by
  have back : (stem ++ '.' :: extension).reverse = extension.reverse ++ '.' :: stem.reverse := by
    simp
  have inside := bne_dot_of_dotFree dotFree
  have after : (extension.reverse ++ '.' :: stem.reverse).takeWhile (· != '.') =
      extension.reverse := by
    rw [List.takeWhile_append_of_pos inside]
    simp
  have before : (extension.reverse ++ '.' :: stem.reverse).dropWhile (· != '.') =
      '.' :: stem.reverse := by
    rw [List.dropWhile_append_of_pos inside]
    simp
  rw [extensionOf?, back, after, before]
  simp

theorem extensionOf?_of_dotFree {name : List Char} (dotFree : '.' ∉ name) :
    extensionOf? name = none := by
  have nothing : name.reverse.dropWhile (· != '.') = [] :=
    List.dropWhile_eq_nil_iff.mpr (bne_dot_of_dotFree dotFree)
  rw [extensionOf?, nothing]
  rfl

/-- The extension stands behind the last dot, and something stands before this dot. -/
theorem extensionOf?_eq_some_iff (name extension : List Char) :
    extensionOf? name = some extension ↔
      ∃ stem, name = stem ++ '.' :: extension ∧ stem ≠ [] ∧ '.' ∉ extension := by
  constructor
  · intro read
    by_cases dotted : '.' ∈ name
    · obtain ⟨after, before, back, dotFree⟩ :=
        List.eq_append_cons_of_mem (List.mem_reverse.mpr dotted)
      have whole : name = before.reverse ++ '.' :: after.reverse := by
        rw [← List.reverse_reverse name, back]
        simp
      rw [← List.mem_reverse] at dotFree
      rw [whole, extensionOf?_append_dot _ dotFree, Option.ite_none_left_eq_some,
        Option.some.injEq] at read
      obtain ⟨stemmed, rfl⟩ := read
      exact ⟨before.reverse, whole, stemmed, dotFree⟩
    · rw [extensionOf?_of_dotFree dotted] at read
      simp at read
  · rintro ⟨stem, rfl, stemmed, dotFree⟩
    rw [extensionOf?_append_dot stem dotFree, if_neg stemmed]

end SheetLint.Path
