/-
This file follows the way from a root to a path through their components. The way is what the path
has behind the root, unless the root is written with a dot before its steps.
-/

import SheetLint.Proofs.FileTree.Climbing
import SheetLint.Proofs.Path.Absolute

namespace SheetLint.Path

/-- The path is written with a dot before its steps. -/
def LedByDot (path : Path) : Prop :=
  path.startsWithDot = true ∧ path.steps ≠ []

instance (path : Path) : Decidable path.LedByDot :=
  inferInstanceAs (Decidable (_ ∧ _))

/-- This is the step that goes up. -/
def up : List Char := ['.', '.']

theorem componentOf_up : componentOf up = .parent := rfl

theorem componentOf_eq_parent_iff (step : List Char) : componentOf step = .parent ↔ step = up :=
  componentOf_injective.eq_iff' componentOf_up

/-- What both begin with does not count. -/
theorem relativeFrom_append (common components base : List Component) :
    relativeFrom [] (common ++ components) (common ++ base) = relativeFrom [] components base := by
  induction common with
  | nil => rfl
  | cons component common inductionHypothesis => simpa [relativeFrom] using inductionHypothesis

theorem relativeFrom_nil_right (gathered components : List Component) :
    relativeFrom gathered components [] = some (gathered.reverse ++ components) := by
  cases components with
  | nil => rw [relativeFrom, List.append_nil]
  | cons component components => rw [relativeFrom]

theorem relativeFrom_nil_left (gathered base : List Component) :
    relativeFrom gathered [] base =
      some (gathered.reverse ++ List.replicate base.length .parent) := by
  induction base generalizing gathered with
  | nil => rw [relativeFrom, List.length_nil, List.replicate_zero, List.append_nil]
  | cons component base inductionHypothesis =>
      rw [relativeFrom, inductionHypothesis, List.reverse_cons, List.append_assoc,
        List.length_cons, List.replicate_succ]
      rfl

/-- Behind the first difference the way goes up once for every component of the base. -/
theorem relativeFrom_cons_of_ne {gathered components base : List Component}
    {component other : Component} (different : ¬ (gathered = [] ∧ component = other))
    (plain : other ≠ .current ∧ other ≠ .parent) :
    relativeFrom gathered (component :: components) (other :: base) =
      some (gathered.reverse ++ .parent :: List.replicate base.length .parent ++
        component :: components) := by
  rw [relativeFrom, if_neg (by simpa using different), if_neg (by simpa using plain.1),
    if_neg (by simpa using plain.2), List.map_const']

theorem componentOf_plain {step : List Char} (down : step ≠ up) :
    componentOf step ≠ .current ∧ componentOf step ≠ .parent :=
  ⟨(componentOf_ne step).2, fun parent => down ((componentOf_eq_parent_iff step).mp parent)⟩

/-- Where the steps of the base are all taken, the way is what is left. -/
theorem relativeFrom_of_prefix (base rest : List (List Char)) :
    relativeFrom [] ((base ++ rest).map componentOf) (base.map componentOf) =
      some (rest.map componentOf) := by
  have common := relativeFrom_append (base.map componentOf) (rest.map componentOf) []
  rwa [List.append_nil, ← List.map_append, relativeFrom_nil_right] at common

/-- Where the base takes another step, the way begins by going up. -/
theorem relativeFrom_of_not_prefix {steps base : List (List Char)} (plain : up ∉ base)
    (other : ¬ base <+: steps) :
    ∃ rest, relativeFrom [] (steps.map componentOf) (base.map componentOf) =
        some ((up :: rest).map componentOf) ∧ ∀ step ∈ rest, step = up ∨ step ∈ steps := by
  induction base generalizing steps with
  | nil => exact absurd List.nil_prefix other
  | cons next base inductionHypothesis =>
      rw [List.mem_cons, not_or] at plain
      cases steps with
      | nil =>
          refine ⟨List.replicate base.length up, ?_, fun step member => ?_⟩
          · rw [List.map_nil, relativeFrom_nil_left, List.length_map, List.map_cons,
              List.map_replicate]
            rfl
          · exact .inl (List.eq_of_mem_replicate member)
      | cons step steps =>
          by_cases same : step = next
          · subst same
            rw [List.cons_prefix_cons, not_and] at other
            obtain ⟨rest, way, among⟩ := inductionHypothesis plain.2 (other rfl)
            refine ⟨rest, ?_, fun other member => ?_⟩
            · rw [← way]
              exact relativeFrom_append [componentOf step] _ _
            · exact (among other member).imp_right (List.mem_cons_of_mem _)
          · refine ⟨List.replicate base.length up ++ step :: steps, ?_, fun other member => ?_⟩
            · rw [List.map_cons, List.map_cons, relativeFrom_cons_of_ne
                (fun equal => same (componentOf_injective equal.2))
                (componentOf_plain (Ne.symm plain.1))]
              simp [componentOf_up]
            · rcases List.mem_append.mp member with first | second
              · exact .inl (List.eq_of_mem_replicate first)
              · exact .inr second

/-- A component that is gathered in place of a dot is not compared any more. -/
theorem relativeFrom_gathered {step : List Char} {steps base : List (List Char)} (plain : up ∉ base)
    (some : base ≠ []) :
    ∃ rest, relativeFrom [componentOf step] (steps.map componentOf) (base.map componentOf) =
        .some ((step :: up :: rest).map componentOf) ∧
      ∀ other ∈ rest, other = up ∨ other ∈ steps := by
  obtain ⟨next, base, rfl⟩ := List.exists_cons_of_ne_nil some
  rw [List.mem_cons, not_or] at plain
  cases steps with
  | nil =>
      refine ⟨List.replicate base.length up, ?_, fun step member => ?_⟩
      · rw [List.map_nil, relativeFrom_nil_left, List.length_map]
        simp [componentOf_up, List.replicate_succ]
      · exact .inl (List.eq_of_mem_replicate member)
  | cons other steps =>
      refine ⟨List.replicate base.length up ++ other :: steps, ?_, fun step member => ?_⟩
      · rw [List.map_cons, List.map_cons, relativeFrom_cons_of_ne
          (fun equal => List.cons_ne_nil _ _ equal.1) (componentOf_plain (Ne.symm plain.1))]
        simp [componentOf_up]
      · rcases List.mem_append.mp member with first | second
        · exact .inl (List.eq_of_mem_replicate first)
        · exact .inr second

/-- A way is made of components of the path and of steps that go up. -/
theorem mem_relativeFrom {gathered components base way : List Component}
    (found : relativeFrom gathered components base = some way) {component : Component}
    (member : component ∈ way) :
    component = .parent ∨ component ∈ gathered ∨ component ∈ components := by
  fun_induction relativeFrom gathered components base with
  | case1 gathered =>
      rw [← Option.some.inj found, List.mem_reverse] at member
      exact .inr (.inl member)
  | case2 gathered first components =>
      rw [← Option.some.inj found, List.mem_append, List.mem_reverse] at member
      exact .inr member
  | case3 gathered _ base inductionHypothesis =>
      rcases inductionHypothesis found with here | more | nothing
      · exact .inl here
      · exact (List.mem_cons.mp more).imp_right .inl
      · exact .inr (.inr nothing)
  | case4 gathered first components _ base _ inductionHypothesis =>
      rcases inductionHypothesis found with here | nothing | more
      · exact .inl here
      · exact absurd nothing List.not_mem_nil
      · exact .inr (.inr (List.mem_cons_of_mem _ more))
  | case5 gathered first components _ base _ _ inductionHypothesis =>
      rcases inductionHypothesis found with here | more | later
      · exact .inl here
      · rcases List.mem_cons.mp more with rfl | more
        · exact .inr (.inr List.mem_cons_self)
        · exact .inr (.inl more)
      · exact .inr (.inr (List.mem_cons_of_mem _ later))
  | case6 => simp at found
  | case7 gathered first components _ base =>
      rw [← Option.some.inj found] at member
      simp only [List.append_assoc, List.mem_append, List.mem_reverse, List.cons_append,
        List.mem_cons, List.mem_map] at member ⊢
      rcases member with more | here | ⟨-, -, here⟩ | later
      · exact .inr (.inl more)
      · exact .inl here
      · exact .inl here.symm
      · exact .inr (.inr later)

/-- A way goes up wherever its path does, if the base does not. -/
theorem parent_mem_relativeFrom {gathered components base way : List Component}
    (plain : .parent ∉ base) (found : relativeFrom gathered components base = some way)
    (member : .parent ∈ gathered ∨ .parent ∈ components) : .parent ∈ way := by
  fun_induction relativeFrom gathered components base with
  | case1 gathered =>
      rw [← Option.some.inj found, List.mem_reverse]
      exact member.resolve_right List.not_mem_nil
  | case2 gathered first components =>
      rw [← Option.some.inj found, List.mem_append, List.mem_reverse]
      exact member
  | case3 gathered _ base inductionHypothesis =>
      exact inductionHypothesis (List.not_mem_of_not_mem_cons plain) found
        (.inl List.mem_cons_self)
  | case4 gathered first components other base same inductionHypothesis =>
      rw [Bool.and_eq_true, List.isEmpty_iff, beq_iff_eq] at same
      refine inductionHypothesis (List.not_mem_of_not_mem_cons plain) found (.inr ?_)
      rcases member with here | more
      · exact absurd (same.1 ▸ here) List.not_mem_nil
      · exact (List.mem_cons.mp more).resolve_left fun first =>
          plain (List.mem_cons.mpr (.inl (first.trans same.2)))
  | case5 gathered first components _ base _ _ inductionHypothesis =>
      refine inductionHypothesis (List.not_mem_of_not_mem_cons plain) found ?_
      rw [List.mem_cons] at member ⊢
      rcases member with here | here | later
      · exact .inl (.inr here)
      · exact .inl (.inl here)
      · exact .inr later
  | case6 => simp at found
  | case7 gathered first components _ base =>
      rw [← Option.some.inj found]
      simp

theorem head?_segmentsOf_append_slash (text rest : List Char) :
    (segmentsOf (text ++ '/' :: rest)).head? = (segmentsOf text).head? := by
  rw [segmentsOf_append_slash, List.head?_append_of_ne_nil _ (segmentsOf_ne_nil text)]

/-- A name behind some text does not change how the path starts. -/
theorem startsWithDot_join {base : Path} (someText : base.characters ≠ []) {name : List Char}
    (plain : '/' ∉ name) : (base.join ⟨name⟩).startsWithDot = base.startsWithDot := by
  have relative := isAbsolute_of_name plain
  have root := isAbsolute_join base relative
  have head : (segmentsOf (base.join ⟨name⟩).characters).head? =
      (segmentsOf base.characters).head? := by
    rw [join_of_relative relative]
    split
    · rename_i closed
      rw [Bool.or_eq_true, List.isEmpty_iff, or_iff_right someText, beq_iff_eq,
        List.getLast?_eq_some_iff] at closed
      obtain ⟨front, text⟩ := closed
      rw [text, head?_segmentsOf_append_slash, List.append_assoc, List.singleton_append,
        head?_segmentsOf_append_slash]
    · exact head?_segmentsOf_append_slash _ _
  rw [startsWithDot, startsWithDot, segments, segments, root]
  cases base.isAbsolute with
  | true => rfl
  | false => exact congrArg (true && · == some ['.']) head

theorem characters_join_ne_nil {base : Path} (someText : base.characters ≠ []) {name : List Char}
    (plain : '/' ∉ name) : (base.join ⟨name⟩).characters ≠ [] := by
  rw [join_of_relative (isAbsolute_of_name plain)]
  split <;> simp [someText]

theorem startsWithDot_joinAll {base : Path} (someText : base.characters ≠ [])
    {names : List (List Char)} (plain : ∀ name ∈ names, '/' ∉ name) :
    (base.joinAll names).startsWithDot = base.startsWithDot := by
  induction names generalizing base with
  | nil => rfl
  | cons name names inductionHypothesis =>
      rw [List.forall_mem_cons] at plain
      exact (inductionHypothesis (characters_join_ne_nil someText plain.1) plain.2).trans
        (startsWithDot_join someText plain.1)

/-- Names that are put together without anything before them are the components. -/
theorem components_joinAll {names : List (List Char)}
    (plain : ∀ name ∈ names, '/' ∉ name ∧ isTrivial name = false) :
    (joinAll ⟨[]⟩ names).components = names.map componentOf := by
  have steps := steps_joinAll ⟨[]⟩ plain
  have relative := isAbsolute_joinAll ⟨[]⟩ fun name member => (plain name member).1
  have undotted : (joinAll ⟨[]⟩ names).startsWithDot = false := by
    cases names with
    | nil => rfl
    | cons name names =>
        rw [List.forall_mem_cons] at plain
        have first : join ⟨[]⟩ ⟨name⟩ = ⟨name⟩ := by
          rw [join_of_relative (isAbsolute_of_name plain.1.1)]
          rfl
        have someText : name ≠ [] := fun nothing => by simp [nothing, isTrivial] at plain
        have alone : startsWithDot ⟨name⟩ = false := by
          have other : name ≠ ['.'] := fun dot => by simp [dot, isTrivial] at plain
          rw [startsWithDot, segments, isAbsolute_of_name plain.1.1]
          simpa [segmentsOf_of_plain plain.1.1] using other
        change (joinAll (join ⟨[]⟩ ⟨name⟩) names).startsWithDot = false
        rw [first, startsWithDot_joinAll someText fun name member => (plain.2 name member).1, alone]
  rw [components_eq, lead, relative, undotted, steps]
  rfl

theorem ofComponents_map (names : List (List Char)) :
    ofComponents (names.map componentOf) = joinAll ⟨[]⟩ names := by
  simp only [ofComponents, joinAll, List.foldl_map, text_componentOf]

/-- A dot at the start of the base makes the first component one that is gathered. -/
theorem relativeFrom_current (step : List Char) (steps : List (List Char))
    (base : List Component) :
    relativeFrom [] ((step :: steps).map componentOf) (.current :: base) =
      relativeFrom [componentOf step] (steps.map componentOf) base := by
  rw [List.map_cons, relativeFrom, if_neg (by simpa using (componentOf_ne step).2),
    if_pos (by rfl)]

variable {path root : Path}

theorem isAbsolute_of_startsWithDot (dot : root.startsWithDot = true) :
    root.isAbsolute = false := by
  rw [startsWithDot, Bool.and_eq_true, Bool.not_eq_true'] at dot
  exact dot.1

theorem eq_dot_of_startsWithDot {name : List Char} (plain : '/' ∉ name)
    (dot : startsWithDot ⟨name⟩ = true) : name = ['.'] := by
  rw [startsWithDot, segments, isAbsolute_of_name plain] at dot
  simpa [segmentsOf_of_plain plain] using dot

theorem components_of_startsWithDot (dot : path.startsWithDot = true) (nowhere : path.steps = []) :
    path.components = [.current] := by
  rw [components_eq, nowhere, lead, isAbsolute_of_startsWithDot dot, dot]
  rfl

/-- Only the steps decide on the way, if the root is not led by a dot. -/
theorem relativeTo?_eq (top : path.isAbsolute = root.isAbsolute)
    (undotted : path.startsWithDot = false) (some : path.steps ≠ []) (led : ¬ root.LedByDot) :
    path.relativeTo? root =
      (relativeFrom [] (path.steps.map componentOf) (root.steps.map componentOf)).map
        ofComponents := by
  rw [relativeTo?, if_pos (beq_iff_eq.mpr top), components_eq, components_eq, lead, lead, top,
    undotted]
  cases dot : root.startsWithDot with
  | false => rw [relativeFrom_append]
  | true =>
      have nowhere : root.steps = [] := by
        by_contra more
        exact led ⟨dot, more⟩
      obtain ⟨step, steps, taken⟩ := List.exists_cons_of_ne_nil some
      rw [isAbsolute_of_startsWithDot dot, nowhere, taken]
      change (relativeFrom [] ((step :: steps).map componentOf) [.current]).map ofComponents = _
      rw [relativeFrom_current, List.map_nil, relativeFrom_nil_right, relativeFrom_nil_right]
      rfl

/-- Under a root that is led by a dot, the first step of the path is gathered. -/
theorem relativeTo?_of_ledByDot (top : path.isAbsolute = root.isAbsolute)
    (undotted : path.startsWithDot = false) (led : root.LedByDot) {step : List Char}
    {steps : List (List Char)} (taken : path.steps = step :: steps) :
    path.relativeTo? root =
      (relativeFrom [componentOf step] (steps.map componentOf) (root.steps.map componentOf)).map
        ofComponents := by
  rw [relativeTo?, if_pos (beq_iff_eq.mpr top), components_eq, components_eq, lead, lead, top,
    undotted, led.1, isAbsolute_of_startsWithDot led.1, taken]
  change (relativeFrom [] _ (.current :: _)).map ofComponents = _
  rw [← relativeFrom_current]
  rfl

/-- The way is the name that is shown, unless it begins by going up. -/
theorem displayUnder_of_way {way : List (List Char)}
    (plain : ∀ step ∈ way, '/' ∉ step ∧ isTrivial step = false)
    (found : path.relativeTo? root = some (ofComponents (way.map componentOf))) :
    path.displayUnder root = if way.head? = some up then path else joinAll ⟨[]⟩ way := by
  rw [displayUnder, found]
  dsimp only
  rw [ofComponents_map, components_joinAll plain]
  cases way with
  | nil => rfl
  | cons step way => simp [componentOf_eq_parent_iff]

theorem up_plain : '/' ∉ up ∧ isTrivial up = false := by
  decide

/-- Behind the steps of a root the rest of a path is its name. -/
theorem displayUnder_of_prefix (top : path.isAbsolute = root.isAbsolute)
    (undotted : path.startsWithDot = false) (led : ¬ root.LedByDot) (descending : path.Descending)
    {rest : List (List Char)} (some : rest ≠ []) (steps : path.steps = root.steps ++ rest) :
    path.displayUnder root = joinAll ⟨[]⟩ rest := by
  have among (step : List Char) (member : step ∈ rest) : step ∈ path.steps :=
    steps ▸ List.mem_append_right _ member
  have way := relativeTo?_eq top undotted (steps ▸ List.append_ne_nil_of_right_ne_nil _ some) led
  rw [steps, relativeFrom_of_prefix] at way
  rw [displayUnder_of_way (fun step member => steps_plain path step (among step member)) way,
    if_neg fun first => descending (among up (List.mem_of_head? first))]

/-- A path that leaves the steps of a root keeps its own name. -/
theorem displayUnder_of_not_prefix (top : path.isAbsolute = root.isAbsolute)
    (undotted : path.startsWithDot = false) (led : ¬ root.LedByDot) (some : path.steps ≠ [])
    (plain : root.Descending) (other : ¬ root.steps <+: path.steps) :
    path.displayUnder root = path := by
  have way := relativeTo?_eq top undotted some led
  obtain ⟨rest, found, among⟩ := relativeFrom_of_not_prefix plain other
  rw [found] at way
  refine (displayUnder_of_way ?_ way).trans (if_pos rfl)
  rw [List.forall_mem_cons]
  refine ⟨up_plain, fun step member => ?_⟩
  rcases among step member with rfl | taken
  · exact up_plain
  · exact steps_plain path step taken

/-- Behind a root that is led by a dot, the first step of the path stands in the name and is undone
by one that goes up. -/
theorem displayUnder_of_ledByDot (top : path.isAbsolute = root.isAbsolute)
    (undotted : path.startsWithDot = false) (led : root.LedByDot) (some : path.steps ≠ [])
    (plain : root.Descending) (descending : path.Descending) :
    ¬ (path.displayUnder root).Descending := by
  obtain ⟨step, steps, taken⟩ := List.exists_cons_of_ne_nil some
  have way := relativeTo?_of_ledByDot top undotted led taken
  obtain ⟨rest, found, among⟩ := @relativeFrom_gathered step steps _ plain led.2
  rw [found] at way
  have inside : ∀ other ∈ step :: steps, '/' ∉ other ∧ isTrivial other = false :=
    taken ▸ steps_plain path
  have plainWay : ∀ other ∈ step :: up :: rest, '/' ∉ other ∧ isTrivial other = false := by
    rw [List.forall_mem_cons, List.forall_mem_cons]
    refine ⟨inside step List.mem_cons_self, up_plain, fun other member => ?_⟩
    rcases among other member with rfl | later
    · exact up_plain
    · exact inside other (List.mem_cons_of_mem _ later)
  have first : (step :: up :: rest).head? ≠ Option.some up := by
    intro same
    obtain rfl : step = up := Option.some.inj same
    exact descending (by rw [taken]; exact List.mem_cons_self)
  rw [displayUnder_of_way plainWay way, if_neg first, Descending, steps_joinAll _ plainWay]
  exact not_not_intro (List.mem_cons_of_mem _ List.mem_cons_self)

theorem steps_foldl_join {components : List Component}
    (plain : ∀ component ∈ components, '/' ∉ component.text) (base : Path) :
    (components.foldl (fun path component => path.join ⟨component.text⟩) base).steps =
      base.steps ++ components.flatMap fun component => steps ⟨component.text⟩ := by
  induction components generalizing base with
  | nil => exact (List.append_nil _).symm
  | cons component components inductionHypothesis =>
      rw [List.forall_mem_cons] at plain
      rw [List.foldl_cons, inductionHypothesis plain.2, List.flatMap_cons, ← List.append_assoc,
        steps_join base (isAbsolute_of_name plain.1)]

theorem parent_mem_components_iff : .parent ∈ path.components ↔ up ∈ path.steps := by
  have lead : .parent ∉ path.lead := by
    rw [lead]
    split
    · simp
    · split <;> simp
  rw [components_eq, List.mem_append, or_iff_right lead, ← componentOf_up,
    List.mem_map_of_injective componentOf_injective]

/-- A way from one path to another never leads through the top of the tree. -/
theorem root_not_mem_relativeFrom (top : path.isAbsolute = root.isAbsolute) {way : List Component}
    (found : relativeFrom [] path.components root.components = some way) : .root ∉ way := by
  have steps : Component.root ∉ path.steps.map componentOf := by
    rw [List.mem_map]
    rintro ⟨step, -, same⟩
    exact (componentOf_ne step).1 same
  intro member
  cases absolute : root.isAbsolute with
  | true =>
      have behind : relativeFrom [] (path.steps.map componentOf) (root.steps.map componentOf) =
          some way := by
        rw [← found, components_eq, components_eq, lead, lead, top, absolute]
        exact (relativeFrom_append [.root] _ _).symm
      rcases mem_relativeFrom behind member with other | nothing | inside
      · exact absurd other (by decide)
      · exact List.not_mem_nil nothing
      · exact steps inside
  | false =>
      rcases mem_relativeFrom found member with other | nothing | inside
      · exact absurd other (by decide)
      · exact List.not_mem_nil nothing
      · rw [root_mem_components_iff, top, absolute] at inside
        exact absurd inside (by decide)

/-- Every component but the root is written without a slash. -/
theorem slash_not_mem_text {component : Component} (member : component ∈ path.components)
    (other : component ≠ .root) : '/' ∉ component.text := by
  rw [components_eq, List.mem_append] at member
  rcases member with first | later
  · rw [lead] at first
    split at first
    · exact absurd (List.mem_singleton.mp first) other
    · split at first
      · rw [List.mem_singleton.mp first]
        decide
      · exact absurd first List.not_mem_nil
  · obtain ⟨step, taken, rfl⟩ := List.mem_map.mp later
    rw [text_componentOf]
    exact (steps_plain path step taken).1

/-- A path that goes up is not shown by a name that does not. -/
theorem not_descending_displayUnder (plain : root.Descending) (goesUp : ¬ path.Descending) :
    ¬ (path.displayUnder root).Descending := by
  rw [displayUnder]
  cases found : path.relativeTo? root with
  | none => exact goesUp
  | some relative =>
      dsimp only
      split
      · exact goesUp
      · rw [relativeTo?] at found
        split at found
        · rename_i top
          rw [beq_iff_eq] at top
          obtain ⟨way, leads, rfl⟩ := Option.map_eq_some_iff.mp found
          have inside : .parent ∈ way := parent_mem_relativeFrom
            (fun parent => plain (parent_mem_components_iff.mp parent)) leads
            (.inr (parent_mem_components_iff.mpr (not_not.mp goesUp)))
          have slashFree : ∀ component ∈ way, '/' ∉ component.text := by
            intro component member
            rcases mem_relativeFrom leads member with rfl | nothing | of_path
            · decide
            · exact absurd nothing List.not_mem_nil
            · refine slash_not_mem_text of_path ?_
              rintro rfl
              exact root_not_mem_relativeFrom top leads member
          rw [Descending, ofComponents, steps_foldl_join slashFree, not_not, List.mem_append,
            List.mem_flatMap]
          exact .inr ⟨.parent, inside, by decide⟩
        · split at found
          · obtain rfl := Option.some.inj found
            exact goesUp
          · simp at found

end SheetLint.Path
