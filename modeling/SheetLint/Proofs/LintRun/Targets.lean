/-
This file shows which files a run lints: those that a valid pattern finds and the selector covers,
each once and in the order of paths. What is said about a file hangs on no other file.
-/

import SheetLint.Proofs.LintResult.Totals
import SheetLint.Proofs.LintRun.Sorting
import SheetLint.Proofs.Linter.Answers
import SheetLint.Proofs.Selector.Extensions

namespace SheetLint

namespace Glob

/-- The pattern can be read as a whole, and so can each of its segments behind the root. -/
structure WellFormed (text : List Char) : Prop where
  whole : (parse? text).isSome
  segments : ∀ segment ∈ segmentsOf (if text.head? == some '/' then text.drop 1 else text),
    (parse? segment).isSome

theorem isSome_parseAll?_iff (segments : List (List Char)) :
    (parseAll? segments).isSome ↔ ∀ segment ∈ segments, (parse? segment).isSome := by
  induction segments with
  | nil => simp [parseAll?]
  | cons segment segments inductionHypothesis =>
      rw [List.forall_mem_cons, ← inductionHypothesis, parseAll?]
      cases parse? segment <;> cases parseAll? segments <;> simp

theorem expand_of_not_wellFormed (tree : FileTree) (current : Place) {text : List Char}
    (broken : ¬ WellFormed text) : expand tree current text = [] := by
  rw [expand]
  dsimp only
  split
  · rename_i whole parsed read readAll
    refine absurd ⟨?_, ?_⟩ broken
    · rw [read, Option.isSome_some]
    · rw [← isSome_parseAll?_iff, readAll, Option.isSome_some]
  · rfl

theorem wellFormed_of_mem_expand {tree : FileTree} {current : Place} {text : List Char}
    {path : Path} (member : path ∈ expand tree current text) : WellFormed text := by
  by_contra broken
  rw [expand_of_not_wellFormed tree current broken] at member
  exact List.not_mem_nil member

end Glob

/-- The selector looks at the components of a path only. -/
theorem Selector.appliesTo_of_components (selector : Selector) {path other : Path}
    (same : path.components = other.components) :
    selector.appliesTo path = selector.appliesTo other := by
  apply Selector.appliesTo_of_fileName?
  rw [Path.fileName?, Path.fileName?, same]

namespace LintRun

/-- There is a file at the path, and a valid pattern under the root yields it. -/
structure Found (host : Host) (root : Path) (pattern : String) (path : Path) : Prop where
  valid : Glob.WellFormed (root.join (Path.ofString pattern)).characters
  yielded :
    path ∈ Glob.expand host.tree host.current (root.join (Path.ofString pattern)).characters
  file : host.isFile path = true

/-- The selector covers the path, or force is used. -/
def Taken (configuration : Configuration) (force : Bool) (path : Path) : Prop :=
  force = true ∨ (Selector.parse configuration.selector).appliesTo path = true

/-- This is the report on a file with the linter of a configuration. -/
def report (host : Host) (configuration : Configuration) (path : Path) : FileReport :=
  Runner.reportFile (configuration.runLinter host) host configuration.root path

/-- The name under which a file is reported is the one that its path is shown by. -/
theorem file_report (host : Host) (configuration : Configuration) (path : Path) :
    (report host configuration path).file = (path.displayUnder configuration.root).toString := by
  rw [report, Runner.reportFile]
  cases Runner.lintPath (configuration.runLinter host) host path <;> rfl

theorem mem_filesOf_iff (host : Host) (root : Path) (pattern : String) (path : Path) :
    path ∈ filesOf host root pattern ↔ Found host root pattern path := by
  rw [filesOf, List.mem_filter]
  constructor
  · intro member
    exact ⟨Glob.wellFormed_of_mem_expand member.1, member.1, member.2⟩
  · intro found
    exact ⟨found.yielded, found.file⟩

variable (host : Host) (configuration : Configuration) (patterns : List String) (force : Bool)

theorem mem_flatMap_filesOf (root path : Path) :
    path ∈ patterns.flatMap (filesOf host root) ↔
      ∃ pattern ∈ patterns, Found host root pattern path := by
  simp only [List.mem_flatMap, mem_filesOf_iff]

theorem taken_iff (path : Path) :
    (force || (Selector.parse configuration.selector).appliesTo path) = true ↔
      Taken configuration force path := by
  rw [Bool.or_eq_true, Taken]

variable {host configuration patterns force} in
theorem sound_of_mem_targets {path : Path}
    (member : path ∈ targets host configuration patterns force) :
    Taken configuration force path ∧
      ∃ pattern ∈ patterns, Found host configuration.root pattern path := by
  rw [targets, List.mem_filter, taken_iff] at member
  obtain ⟨expanded, taken⟩ := member
  exact ⟨taken, (mem_flatMap_filesOf host patterns _ path).mp (mem_of_mem_sortPaths expanded)⟩

/-- Every path that is found and taken is linted, under one of its spellings. -/
theorem mem_map_targets_iff (components : List Path.Component) :
    components ∈ (targets host configuration patterns force).map Path.components ↔
      ∃ path, path.components = components ∧ Taken configuration force path ∧
        ∃ pattern ∈ patterns, Found host configuration.root pattern path := by
  constructor
  · intro member
    obtain ⟨path, listed, same⟩ := List.mem_map.mp member
    exact ⟨path, same, sound_of_mem_targets listed⟩
  · rintro ⟨path, same, taken, found⟩
    have expanded : components ∈
        (expandPatterns host configuration.root patterns).map Path.components := by
      rw [expandPatterns, mem_map_sortPaths, List.mem_map]
      exact ⟨path, (mem_flatMap_filesOf host patterns _ path).mpr found, same⟩
    -- the kept spelling may be another one, but it is covered as well
    obtain ⟨kept, listed, equal⟩ := List.mem_map.mp expanded
    rw [targets, List.mem_map]
    refine ⟨kept, ?_, equal⟩
    rw [List.mem_filter, Selector.appliesTo_of_components _ (equal.trans same.symm), taken_iff]
    exact ⟨listed, taken⟩

theorem sorted_targets : Sorted (targets host configuration patterns force) :=
  (sorted_sortPaths _).sublist (List.filter_sublist.map Path.components)

/-- More patterns add files and leave the others as they are. -/
theorem targets_sublist_append (more : List String) :
    (targets host configuration patterns force).Sublist
      (targets host configuration (patterns ++ more) force) := by
  rw [targets, targets, expandPatterns, expandPatterns, List.flatMap_append]
  exact (sublist_sortPaths_append _ _).filter _

theorem targets_of_not_wellFormed (before after : List String) {pattern : String}
    (broken :
      ¬ Glob.WellFormed (configuration.root.join (Path.ofString pattern)).characters) :
    targets host configuration (before ++ pattern :: after) force =
      targets host configuration (before ++ after) force := by
  have nothing : filesOf host configuration.root pattern = [] := by
    rw [filesOf, Glob.expand_of_not_wellFormed _ _ broken, List.filter_nil]
  rw [targets, targets, expandPatterns, expandPatterns, List.flatMap_append, List.flatMap_append,
    List.flatMap_cons, nothing, List.nil_append]

/-- Without force those of the files remain that the selector covers. -/
theorem targets_unforced :
    targets host configuration patterns false =
      (targets host configuration patterns true).filter
        (Selector.parse configuration.selector).appliesTo := by
  simp only [targets, Bool.false_or, Bool.true_or, List.filter_true]

theorem files_runLint :
    (runLint host configuration patterns force).files =
      (targets host configuration patterns force).map (report host configuration) := rfl

theorem runLint_sublist_append (more : List String) :
    (runLint host configuration patterns force).files.Sublist
      (runLint host configuration (patterns ++ more) force).files := by
  rw [files_runLint, files_runLint]
  exact (targets_sublist_append host configuration patterns force more).map _

variable {host configuration patterns force} in
/-- The report on a file stays the same as long as the tool answers alike for that file. -/
theorem getElem?_runLint_withTool {execute : Execution → Streams} {place : Nat} {path : Path}
    (listed : (targets host configuration patterns force)[place]? = some path)
    (same : ∀ text execution, configuration.Starts host path text execution →
      execute execution = host.execute execution) :
    (runLint (host.withTool execute) configuration patterns force).files[place]? =
      (runLint host configuration patterns force).files[place]? := by
  -- the files are looked for without the tool
  have again : (targets (host.withTool execute) configuration patterns force)[place]? =
      some path := listed
  have alike : report (host.withTool execute) configuration path =
      report host configuration path := by
    rw [report, report, Runner.reportFile, Runner.reportFile,
      configuration.lintPath_of_same_answer same]
  rw [files_runLint, files_runLint, List.getElem?_map, List.getElem?_map, listed, again,
    Option.map_some, Option.map_some, alike]

/-- A run lints the files that a valid pattern finds and the selector covers, unless force is used:
each once and in the order of paths. More patterns leave the reports as they are, a pattern that is
not valid does nothing, and what the tool does for other files does not show in the report on a file.
Without force the result is the part of the forced one on the covered files. -/
theorem runLint_reports_targets :
    let run := fun patterns force => runLint host configuration patterns force
    let linted := fun force => targets host configuration patterns force
    let covered := (Selector.parse configuration.selector).appliesTo
    (∀ components, components ∈ (linted force).map Path.components ↔
      ∃ path, path.components = components ∧ Taken configuration force path ∧
        ∃ pattern ∈ patterns, Found host configuration.root pattern path) ∧
    (∀ path ∈ linted force, Taken configuration force path ∧
      ∃ pattern ∈ patterns, Found host configuration.root pattern path) ∧
    Sorted (linted force) ∧
    (run patterns force).files = (linted force).map (report host configuration) ∧
    (∀ more, (run patterns force).files.Sublist (run (patterns ++ more) force).files) ∧
    (∀ before pattern after, patterns = before ++ pattern :: after →
      ¬ Glob.WellFormed (configuration.root.join (Path.ofString pattern)).characters →
        run patterns force = run (before ++ after) force) ∧
    (∀ execute (place : Nat) path, (linted force)[place]? = some path →
      (∀ text execution, configuration.Starts host path text execution →
        execute execution = host.execute execution) →
      (runLint (host.withTool execute) configuration patterns force).files[place]? =
        (run patterns force).files[place]?) ∧
    (run patterns false).files =
      ((linted true).filter covered).map (report host configuration) ∧
    (run patterns false).files.Sublist (run patterns true).files ∧
    (run patterns true).summary = (run patterns false).summary.add
      (LintResult.mk (((linted true).filter fun path => !covered path).map
        (report host configuration))).summary := by
  intro run linted covered
  have unforced : (run patterns false).files =
      ((linted true).filter covered).map (report host configuration) := by
    change (runLint host configuration patterns false).files = _
    rw [files_runLint, targets_unforced]
  refine ⟨mem_map_targets_iff host configuration patterns force,
    fun _ => sound_of_mem_targets, sorted_targets host configuration patterns force, rfl,
    runLint_sublist_append host configuration patterns force, ?_, ?_, unforced, ?_, ?_⟩
  · rintro before pattern after rfl broken
    change runLint _ _ _ _ = runLint _ _ _ _
    rw [runLint, runLint, targets_of_not_wellFormed host configuration force before after broken]
  · intro execute place path listed same
    exact getElem?_runLint_withTool listed same
  · rw [unforced]
    exact List.filter_sublist.map (report host configuration)
  · have counted := LintResult.summary_map_filter (report host configuration) covered (linted true)
    rwa [← unforced] at counted

end LintRun

end SheetLint
