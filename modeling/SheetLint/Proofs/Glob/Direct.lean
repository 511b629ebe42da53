/-
This file describes a search whose patterns do not reach into directories: it goes from path to
path, one pattern at a time, and every pattern adds one name at most.
-/

import SheetLint.Proofs.FileTree.Files
import SheetLint.Proofs.FileTree.Joining
import SheetLint.Proofs.Glob.Literal
import SheetLint.Proofs.Path.LastName

namespace SheetLint

namespace Glob

/-- A pattern leads a search from a path to the next one. -/
inductive Leads (ground : Ground) (pattern : Pattern) (path : Path) : Path → Prop
  | dots {name : List Char} (literal : literal? pattern = some name) (dots : name ∈ dotNames)
      (directory : ground.isDirectory path = true) : Leads ground pattern path (under path name)
  | written {name : List Char} (literal : literal? pattern = some name) (other : name ∉ dotNames)
      (exist : ground.tree.pathExists ground.current (under path name) = true) :
      Leads ground pattern path (under path name)
  | listed {name shown : List Char} (wild : literal? pattern = none)
      (directory : ground.isDirectory path = true) (member : name ∈ ground.names path)
      (named : (under path name).fileName? = some shown) (fit : fits pattern shown = true) :
      Leads ground pattern path (under path name)
  | dotted {name : List Char} (wild : literal? pattern = none)
      (directory : ground.isDirectory path = true) (first : pattern.head? = some (.character '.'))
      (dots : name ∈ dotNames) (fit : fits pattern name = true) :
      Leads ground pattern path (path.join ⟨name⟩)

/-- This is the text that is written before a name in the directory at a path. -/
def before (path : Path) : List Char :=
  if path.components == [.current] then []
  else if path.characters.isEmpty || path.characters.getLast? == some '/' then path.characters
  else path.characters ++ ['/']

theorem under_eq (path : Path) {name : List Char} (plain : '/' ∉ name) :
    under path name = ⟨before path ++ name⟩ := by
  rw [under, before, Path.join_of_relative (Path.isAbsolute_of_name plain)]
  split
  · rfl
  · split
    · rfl
    · rw [List.append_assoc, List.singleton_append]

theorem byteCount_before_le (path : Path) :
    Text.byteCount (before path) ≤ Text.byteCount path.characters + 1 := by
  have slash : Text.byteCount ['/'] = 1 := by decide
  rw [before]
  split
  · exact Nat.zero_le _
  · split
    · exact Nat.le_succ _
    · rw [Text.byteCount_append, slash]

/-- A lone dot is relative and has no steps. -/
theorem lead_of_loneDot {path : Path} (lone : path.components = [.current]) :
    path.isAbsolute = false ∧ path.steps = [] := by
  obtain ⟨root, steps⟩ := @Path.same_of_components path ⟨['.']⟩ lone
  exact ⟨root, steps⟩

theorem isAbsolute_under (path : Path) {name : List Char} (plain : '/' ∉ name) :
    (under path name).isAbsolute = path.isAbsolute := by
  have relative := Path.isAbsolute_of_name plain
  rw [under]
  split
  · rename_i lone
    rw [relative, (lead_of_loneDot (beq_iff_eq.mp lone)).1]
  · exact Path.isAbsolute_join path relative

theorem steps_under (path : Path) {name : List Char} (plain : '/' ∉ name) :
    (under path name).steps = path.steps ++ Path.steps ⟨name⟩ := by
  rw [under]
  split
  · rename_i lone
    rw [(lead_of_loneDot (beq_iff_eq.mp lone)).2, List.nil_append]
  · exact Path.steps_join path (Path.isAbsolute_of_name plain)

/-- Whatever leads a search on, a name is put behind the path. -/
theorem Offers.isAbsolute_and_steps {ground : Ground} {patterns : List Pattern} {path next : Path}
    {name : List Char} (plain : '/' ∉ name) (offers : Offers ground patterns path name next) :
    next.isAbsolute = path.isAbsolute ∧ next.steps = path.steps ++ Path.steps ⟨name⟩ := by
  have relative := Path.isAbsolute_of_name plain
  cases offers with
  | written | listed => exact ⟨isAbsolute_under path plain, steps_under path plain⟩
  | dotted => exact ⟨Path.isAbsolute_join path relative, Path.steps_join path relative⟩

theorem getLast?_segments_under (path : Path) {name : List Char} (plain : '/' ∉ name) :
    (under path name).segments.getLast? = some name := by
  rw [under]
  split
  · rw [Path.getLast?_segments, Path.segmentsOf_of_plain plain]
    rfl
  · exact Path.getLast?_segments_join path plain

/-- From a path that is reached the search goes on with the other patterns, and ends without any. -/
def onward (ground : Ground) (fuel : Nat) (patterns : List Pattern) (next : Path) : List Path :=
  if patterns.isEmpty then (if ground.wanted next then [next] else [])
  else search ground fuel patterns next

/-- A pattern that does not reach into directories is used up by the next step of the search. -/
theorem mem_search_cons_iff {ground : Ground} {fuel : Nat} {pattern : Pattern}
    (single : isRecursive pattern = false) {patterns : List Pattern} {path found : Path} :
    found ∈ search ground (fuel + 1) (pattern :: patterns) path ↔
      ∃ next, Leads ground pattern path next ∧ found ∈ onward ground fuel patterns next := by
  have step (next : Path) : (if patterns.isEmpty then (if ground.wanted next then [next] else [])
      else search ground fuel patterns next) = onward ground fuel patterns next := rfl
  have dotName (name : List Char) :
      (name == ['.'] || name == ['.', '.']) = decide (name ∈ dotNames) := by
    simp [dotNames, Bool.beq_eq_decide_eq]
  rw [search.eq_def]
  simp only [single, Bool.false_eq_true, if_false, step, dotName]
  cases literal : literal? pattern with
  | some name =>
      dsimp only
      constructor
      · intro member
        split at member
        · rename_i passed
          refine ⟨_, ?_, member⟩
          by_cases dots : name ∈ dotNames
          · exact .dots literal dots (by simpa [dots] using passed)
          · exact .written literal dots (by simpa [dots] using passed)
        · simp at member
      · rintro ⟨next, leads, member⟩
        cases leads with
        | dots literal' dots directory =>
            obtain rfl := Option.some.inj (literal'.symm.trans literal)
            simpa [dots, directory] using member
        | written literal' other exist =>
            obtain rfl := Option.some.inj (literal'.symm.trans literal)
            simpa [other, exist] using member
        | listed wild | dotted wild => simp [wild] at literal
  | none =>
      dsimp only
      constructor
      · intro member
        split at member
        · rename_i directory
          rcases List.mem_append.mp member with child | dotted
          · obtain ⟨name, listed, visited⟩ := List.mem_flatMap.mp child
            cases named : (under path name).fileName? with
            | none => simp [named] at visited
            | some shown =>
                cases fit : fits pattern shown with
                | false => simp [named, fit] at visited
                | true =>
                    exact ⟨_, .listed literal directory listed named fit,
                      by simpa [named, fit] using visited⟩
          · split at dotted
            · obtain ⟨name, dots, visited⟩ := List.mem_flatMap.mp dotted
              rw [List.mem_filter] at dots
              exact ⟨_, .dotted literal directory rfl dots.1 dots.2, visited⟩
            · simp at dotted
        · simp at member
      · rintro ⟨next, leads, member⟩
        cases leads with
        | dots literal' | written literal' => simp [literal] at literal'
        | listed wild directory listed named fit =>
            rw [if_pos directory, List.mem_append, List.mem_flatMap]
            exact .inl ⟨_, listed, by simpa [named, fit] using member⟩
        | dotted wild directory first dots fit =>
            obtain ⟨rest, rfl⟩ := List.head?_eq_some_iff.mp first
            rw [if_pos directory, List.mem_append]
            refine .inr (List.mem_flatMap.mpr ⟨_, ?_, member⟩)
            exact List.mem_filter.mpr ⟨dots, fit⟩

/-- A pattern adds a name that fits it, or nothing. -/
theorem Leads.exists_steps {ground : Ground} (named : ground.tree.SlashFree) {pattern : Pattern}
    (plain : Plain pattern) {path next : Path} (leads : Leads ground pattern path next) :
    next.isAbsolute = path.isAbsolute ∧ ∃ name, next.steps = path.steps ++ Path.steps ⟨name⟩ ∧
      '/' ∉ name ∧ (Path.isTrivial name = false → fits pattern name = true) := by
  have written {name : List Char} (literal : literal? pattern = some name) :
      '/' ∉ name ∧ fits pattern name = true :=
    ⟨fun slash => plain (subset_of_literal? literal slash), (fits_iff_of_literal? literal).mpr rfl⟩
  cases leads with
  | @dots name literal | @written name literal =>
      obtain ⟨slashFree, fit⟩ := written literal
      exact ⟨isAbsolute_under path slashFree, name, steps_under path slashFree, slashFree,
        fun _ => fit⟩
  | @listed name shown wild directory member child fit =>
      have slashFree := slash_not_mem_names named member
      refine ⟨isAbsolute_under path slashFree, name, steps_under path slashFree, slashFree, ?_⟩
      intro names
      have steps := steps_under path slashFree
      rw [Path.steps_of_name slashFree names] at steps
      rw [Path.fileName?_of_steps steps, Option.ite_none_left_eq_some] at child
      rw [Option.some.inj child.2]
      exact fit
  | @dotted name wild directory first dots fit =>
      have slashFree := slash_not_mem_dotNames name dots
      have relative := Path.isAbsolute_of_name slashFree
      exact ⟨Path.isAbsolute_join path relative, name, Path.steps_join path relative, slashFree,
        fun _ => fit⟩

/-- These names fit the patterns in their order; a pattern may be left out. -/
inductive Spelled : List Pattern → List (List Char) → Prop
  | nil : Spelled [] []
  | skip {pattern : Pattern} {patterns : List Pattern} {names : List (List Char)}
      (rest : Spelled patterns names) : Spelled (pattern :: patterns) names
  | name {pattern : Pattern} {patterns : List Pattern} {name : List Char}
      {names : List (List Char)} (fit : fits pattern name = true) (rest : Spelled patterns names) :
      Spelled (pattern :: patterns) (name :: names)

/-- Behind its start a path that is found is made of names that fit the patterns. -/
theorem exists_spelled_of_mem_search {ground : Ground} (named : ground.tree.SlashFree)
    {fuel : Nat} {patterns : List Pattern} {path found : Path}
    (plain : ∀ pattern ∈ patterns, Plain pattern ∧ isRecursive pattern = false)
    (member : found ∈ search ground fuel patterns path) :
    found.isAbsolute = path.isAbsolute ∧
      ∃ names, found.steps = path.steps ++ names ∧ Spelled patterns names := by
  induction fuel generalizing patterns path with
  | zero => simp [search] at member
  | succ fuel inductionHypothesis =>
      cases patterns with
      | nil => simp [search] at member
      | cons pattern patterns =>
          rw [List.forall_mem_cons] at plain
          obtain ⟨next, leads, member⟩ := (mem_search_cons_iff plain.1.2).mp member
          obtain ⟨root, name, steps, slashFree, fit⟩ := leads.exists_steps named plain.1.1
          have behind : found.isAbsolute = next.isAbsolute ∧
              ∃ names, found.steps = next.steps ++ names ∧ Spelled patterns names := by
            rw [onward] at member
            split at member
            · rename_i last
              rw [List.isEmpty_iff] at last
              split at member
              · obtain rfl := List.mem_singleton.mp member
                exact ⟨rfl, [], (List.append_nil _).symm, last ▸ .nil⟩
              · simp at member
            · exact inductionHypothesis plain.2 member
          obtain ⟨root', names, steps', rest⟩ := behind
          refine ⟨root'.trans root, Path.steps ⟨name⟩ ++ names, ?_, ?_⟩
          · rw [steps', steps, List.append_assoc]
          · cases trivial : Path.isTrivial name with
            | true =>
                rw [Path.steps_of_isTrivial trivial, List.nil_append]
                exact .skip rest
            | false =>
                rw [Path.steps_of_name slashFree trivial]
                exact .name (fit trivial) rest

theorem plain_of_readFrom {segments : List (List Char)} {patterns : List Pattern}
    (read : ReadFrom segments patterns)
    (plain : ∀ segment ∈ segments, '/' ∉ segment ∧ segment ≠ ['*', '*']) :
    ∀ pattern ∈ patterns, Plain pattern ∧ isRecursive pattern = false := by
  intro pattern member
  obtain ⟨segment, listed, read⟩ := read.exists_segment pattern member
  obtain ⟨slashFree, single⟩ := plain segment listed
  exact ⟨plain_of_parse? slashFree read, isRecursive_of_parse? slashFree single read⟩

/-- The segments that make no name are without wildcards. -/
theorem literal?_of_nameless {segment : List Char} {pattern : Pattern}
    (nameless : Path.isTrivial segment = true ∨ segment = ['.', '.'])
    (read : parse? segment = some pattern) : literal? pattern = some segment := by
  rw [Path.isTrivial_iff] at nameless
  rcases nameless with (rfl | rfl) | rfl <;> obtain rfl := Option.some.inj read <;> rfl

/-- A segment that names nothing is fit by nothing else. -/
theorem isTrivial_of_fits {segment name : List Char} {pattern : Pattern}
    (trivial : Path.isTrivial segment = true) (read : parse? segment = some pattern)
    (fit : fits pattern name = true) : Path.isTrivial name = true := by
  rw [(fits_iff_of_literal? (literal?_of_nameless (.inl trivial) read)).mp fit]
  exact trivial

/-- No more names than there are steps among the segments fit the patterns of the segments. -/
theorem Spelled.length_le {segments : List (List Char)} {patterns : List Pattern}
    (read : ReadFrom segments patterns)
    {names : List (List Char)} (spelled : Spelled patterns names)
    (named : ∀ name ∈ names, Path.isTrivial name = false) :
    names.length ≤ (Path.stepsOf segments).length := by
  induction read generalizing names with
  | nil =>
      cases spelled
      exact Nat.le_refl _
  | @cons segment pattern segments patterns first _ inductionHypothesis =>
      have more : (Path.stepsOf segments).length ≤ (Path.stepsOf (segment :: segments)).length :=
        ((List.sublist_cons_self segment segments).filter _).length_le
      cases spelled with
      | skip rest => exact (inductionHypothesis rest named).trans more
      | @name _ _ name names fit rest =>
          rw [List.forall_mem_cons] at named
          have leads : Path.isTrivial segment = false := by
            by_contra trivial
            rw [Bool.not_eq_false] at trivial
            rw [isTrivial_of_fits trivial first fit] at named
            exact absurd named.1 (by decide)
          rw [FileTree.stepsOf_cons_of_not_trivial leads, List.length_cons, List.length_cons]
          exact Nat.succ_le_succ (inductionHypothesis rest named.2)

/-- When the steps themselves fit the patterns in their order, every segment fits itself: there is
no other way to share the steps out. -/
theorem Spelled.fitsItself {segments : List (List Char)} {patterns : List Pattern}
    (read : ReadFrom segments patterns)
    (spelled : Spelled patterns (Path.stepsOf segments)) :
    ∀ segment ∈ segments, FitsItself segment := by
  induction read with
  | nil => nofun
  | @cons segment pattern segments patterns first later inductionHypothesis =>
      have named : ∀ name ∈ Path.stepsOf segments, Path.isTrivial name = false := by
        intro name member
        simpa using (List.mem_filter.mp member).2
      rw [List.forall_mem_cons]
      cases trivial : Path.isTrivial segment with
      | true =>
          rw [FileTree.stepsOf_cons_of_trivial trivial] at spelled
          refine ⟨fitsItself_of_isTrivial trivial, inductionHypothesis ?_⟩
          generalize Path.stepsOf segments = names at spelled named
          cases spelled with
          | skip rest => exact rest
          | name fit rest =>
              have other := (List.forall_mem_cons.mp named).1
              rw [isTrivial_of_fits trivial first fit] at other
              exact absurd other (by decide)
      | false =>
          rw [FileTree.stepsOf_cons_of_not_trivial trivial] at spelled
          cases spelled with
          | skip rest =>
              have less := rest.length_le later (List.forall_mem_cons.mpr ⟨trivial, named⟩)
              rw [List.length_cons] at less
              exact absurd less (Nat.not_succ_le_self _)
          | name fit rest => exact ⟨⟨pattern, first, fit⟩, inductionHypothesis rest⟩

end Glob

end SheetLint
