/-
This file compares two runs over the same patterns in another order or number. A file that is found
under two spellings stands in the report under the one that was found first, and that spelling can
show in the name of the file and in the message that it has no style block.
-/

import SheetLint.Proofs.FileTree.Files
import SheetLint.Proofs.Glob.Growth
import SheetLint.Proofs.LintRun.Targets

namespace SheetLint

/-- The path does not start with two slashes. -/
def Path.SingleSlash (path : Path) : Prop :=
  path.characters.take 2 ≠ ['/', '/']

instance (path : Path) : Decidable path.SingleSlash :=
  inferInstanceAs (Decidable (_ ≠ _))

theorem Path.growing_singleSlash : Glob.Growing Path.SingleSlash where
  alone := by
    intro name plain double
    exact plain (List.mem_of_mem_take (double ▸ List.mem_cons_self))
  join := by
    intro path name plain single
    have relative : Path.isAbsolute ⟨name⟩ = false := Path.isAbsolute_of_name plain
    rw [Path.SingleSlash, Path.join_of_relative relative]
    rcases path with ⟨_ | ⟨first, _ | ⟨second, rest⟩⟩⟩
    · exact fun double => plain (List.mem_of_mem_take (double ▸ List.mem_cons_self))
    · split
      · intro double
        have second : name.take 1 = ['/'] := congrArg List.tail double
        exact plain (List.mem_of_mem_take (second ▸ List.mem_cons_self))
      · rename_i closed
        intro double
        have slash : first = '/' := List.head_eq_of_cons_eq double
        simp [slash] at closed
    · split
      · exact single
      · exact single

/-- The message on a file without a style block shows its path as it is spelled. -/
theorem message_missingStyleBlock_inj {path other : Path} {marker : String} :
    (LintError.missingStyleBlock path marker).message =
      (LintError.missingStyleBlock other marker).message ↔ path = other := by
  have written (path : Path) : (LintError.missingStyleBlock path marker).message.toList =
      ("no style block marker '" ++ marker ++ "' found in ").toList ++ path.characters := by
    change ("no style block marker '" ++ marker ++ "' found in " ++ path.toString).toList = _
    rw [String.toList_append, Path.toString, String.toList_ofList]
  constructor
  · intro equal
    have texts := congrArg String.toList equal
    rw [written, written, List.append_cancel_left_eq] at texts
    cases path
    cases other
    exact congrArg Path.mk texts
  · intro same
    rw [same]

namespace LintRun

/-- Two spellings of one file that was found. -/
structure Respelled (host : Host) (path other : Path) : Prop where
  same : path.components = other.components
  file : host.isFile path = true
  file' : host.isFile other = true
  single : path.SingleSlash
  single' : other.SingleSlash

/-- The file is refused because it has no style block. -/
def Refused (host : Host) (configuration : Configuration) (path : Path) : Prop :=
  configuration.missingBlock = .fail ∧
    StyleBlock.locateInFile host path configuration.styleMarker = .ok none

variable {host : Host} {configuration : Configuration} {path other : Path}

theorem Respelled.readText (respelled : Respelled host path other) :
    host.readText path = host.readText other :=
  FileTree.readText_of_components respelled.same respelled.file respelled.file'

theorem Respelled.invocation (respelled : Respelled host path other)
    (configuration : Configuration) (text : String) :
    configuration.invocation host ⟨some path, text⟩ =
      configuration.invocation host ⟨some other, text⟩ := by
  have named : Path.absolute host.directory path = Path.absolute host.directory other :=
    Path.absolute_of_components respelled.same respelled.single respelled.single'
      (FileTree.getLast?_ne_slash_of_isFile respelled.file)
      (FileTree.getLast?_ne_slash_of_isFile respelled.file') host.directory
  have document : Configuration.documentName host ⟨some path, text⟩ =
      Configuration.documentName host ⟨some other, text⟩ := congrArg some named
  rw [Configuration.invocation, Configuration.invocation, Configuration.searchStart,
    Configuration.searchStart, document]

theorem Respelled.locateInFile (respelled : Respelled host path other) (marker : String) :
    StyleBlock.locateInFile host path marker = StyleBlock.locateInFile host other marker := by
  rw [StyleBlock.locateInFile, StyleBlock.locateInFile, respelled.readText]

theorem Respelled.refused_iff (respelled : Respelled host path other) :
    Refused host configuration path ↔ Refused host configuration other := by
  rw [Refused, Refused, respelled.locateInFile]

/-- A file that is not refused has the same offset, or the same error, under each spelling. -/
theorem Respelled.blockOffset (respelled : Respelled host path other)
    (taken : ¬ Refused host configuration path) (text : String) :
    configuration.blockOffset host ⟨some path, text⟩ =
      configuration.blockOffset host ⟨some other, text⟩ := by
  have located := respelled.locateInFile configuration.styleMarker
  rw [Configuration.blockOffset, Configuration.blockOffset]
  dsimp only
  rw [← located]
  cases here : StyleBlock.locateInFile host path configuration.styleMarker with
  | error cause => rfl
  | ok found =>
      cases found with
      | some line => rfl
      | none =>
          cases policy : configuration.missingBlock with
          | zero => rfl
          | fail => exact absurd ⟨policy, here⟩ taken

/-- A file that is not refused gives the same under each of its spellings. -/
theorem Respelled.lintPath (respelled : Respelled host path other)
    (taken : ¬ Refused host configuration path) :
    Runner.lintPath (configuration.runLinter host) host path =
      Runner.lintPath (configuration.runLinter host) host other := by
  rw [Runner.lintPath, Runner.lintPath, Document.ofFile, Document.ofFile, ← respelled.readText]
  cases host.readText path with
  | error cause => rfl
  | ok text =>
      have run : configuration.runLinter host ⟨some path, text⟩ =
          configuration.runLinter host ⟨some other, text⟩ := by
        rw [Configuration.runLinter, Configuration.runLinter, respelled.invocation,
          respelled.blockOffset taken]
      exact congrArg (Except.map RawOutput.diagnose) run

/-- A refused file gives an error that holds its path. -/
theorem lintPath_of_refused (refused : Refused host configuration path) :
    Runner.lintPath (configuration.runLinter host) host path =
      .error (.missingStyleBlock path configuration.styleMarker) := by
  obtain ⟨policy, located⟩ := refused
  cases read : host.readText path with
  | error cause => simp [StyleBlock.locateInFile, read, Except.mapError, Except.map] at located
  | ok text =>
      have offset : configuration.blockOffset host ⟨some path, text⟩ =
          .error (.missingStyleBlock path configuration.styleMarker) := by
        rw [Configuration.blockOffset]
        dsimp only
        rw [located, policy]
        rfl
      rw [Runner.lintPath_of_readText _ read, Runner.lintDocument, Configuration.runLinter, offset]
      rfl

theorem Respelled.sameFindings (respelled : Respelled host path other)
    (configuration : Configuration) :
    FileReport.SameFindings (report host configuration path)
      (report host configuration other) := by
  rw [report, report, Runner.reportFile, Runner.reportFile]
  by_cases refused : Refused host configuration path
  · rw [lintPath_of_refused refused, lintPath_of_refused (respelled.refused_iff.mp refused)]
    exact ⟨rfl, rfl, rfl⟩
  · rw [respelled.lintPath refused]
    cases Runner.lintPath (configuration.runLinter host) host other with
    | error error => exact ⟨rfl, rfl, rfl⟩
    | ok pass => exact ⟨rfl, rfl, rfl⟩

/-- Two spellings are reported alike when they are shown alike; the message on a refused file shows
the path as it is spelled. -/
theorem Respelled.report_eq_iff (respelled : Respelled host path other) :
    report host configuration path = report host configuration other ↔
      path.displayUnder configuration.root = other.displayUnder configuration.root ∧
        (Refused host configuration path → path = other) := by
  by_cases refused : Refused host configuration path
  · rw [report, report, Runner.reportFile, Runner.reportFile, lintPath_of_refused refused,
      lintPath_of_refused (respelled.refused_iff.mp refused)]
    rw [FileReport.ofPass, FileReport.ofPass, FileReport.mk.injEq, Path.toString_inj,
      Option.some.injEq, message_missingStyleBlock_inj]
    exact ⟨fun equal => ⟨equal.1, fun _ => equal.2.2.2⟩,
      fun alike => ⟨alike.1, rfl, rfl, alike.2 refused⟩⟩
  · constructor
    · intro equal
      have names := congrArg FileReport.file equal
      rw [file_report, file_report, Path.toString_inj] at names
      exact ⟨names, fun refuses => absurd refuses refused⟩
    · intro alike
      rw [report, report, Runner.reportFile, Runner.reportFile, respelled.lintPath refused, alike.1]

/-- The same patterns find the same paths. -/
theorem mem_flatMap_filesOf_iff {first second : List String}
    (same : ∀ pattern, pattern ∈ first ↔ pattern ∈ second) (host : Host) (root path : Path) :
    path ∈ first.flatMap (filesOf host root) ↔ path ∈ second.flatMap (filesOf host root) := by
  rw [List.mem_flatMap, List.mem_flatMap]
  exact exists_congr fun pattern => and_congr_left' (same pattern)

theorem mem_flatMap_of_mem_targets {patterns : List String} {force : Bool}
    (member : path ∈ targets host configuration patterns force) :
    path ∈ patterns.flatMap (filesOf host configuration.root) :=
  mem_of_mem_sortPaths (List.mem_of_mem_filter member)

/-- The files of two runs over the same patterns are the same ones in the same order. -/
theorem respelled_targets (named : host.tree.SlashFree) {first second : List String}
    (same : ∀ pattern, pattern ∈ first ↔ pattern ∈ second) (configuration : Configuration)
    (force : Bool) :
    List.Forall₂ (Respelled host) (targets host configuration first force)
      (targets host configuration second force) := by
  have sound (patterns : List String) :
      ∀ path ∈ expandPatterns host configuration.root patterns,
        host.isFile path = true ∧ path.SingleSlash := by
    intro path member
    obtain ⟨pattern, -, found⟩ := List.mem_flatMap.mp (mem_of_mem_sortPaths member)
    rw [filesOf, List.mem_filter] at found
    exact ⟨found.2, Glob.forall_mem_expand Path.growing_singleSlash named (by decide) (by decide)
      _ _ path found.1⟩
  have alike := forall₂_sortPaths (mem_flatMap_filesOf_iff same host configuration.root)
  rw [List.forall₂_iff_zip] at alike
  have respelled : List.Forall₂ (Respelled host)
      (expandPatterns host configuration.root first)
      (expandPatterns host configuration.root second) := by
    rw [List.forall₂_iff_zip]
    refine ⟨alike.1, fun pair => ?_⟩
    obtain ⟨left, right⟩ := List.of_mem_zip pair
    obtain ⟨file, single⟩ := sound first _ left
    obtain ⟨file', single'⟩ := sound second _ right
    exact ⟨alike.2 pair, file, file', single, single'⟩
  apply List.rel_filter _ respelled
  intro path other respelled
  simp only [Selector.appliesTo_of_components _ respelled.same]

/-- Two runs have the same result when they report their files alike, one by one. -/
theorem runLint_eq_iff (host : Host) (configuration : Configuration) (force : Bool)
    (first second : List String) :
    runLint host configuration first force = runLint host configuration second force ↔
      List.Forall₂ (fun path other =>
          report host configuration path = report host configuration other)
        (targets host configuration first force) (targets host configuration second force) := by
  rw [runLint, runLint, LintResult.mk.injEq, ← List.forall₂_eq_eq_eq, List.forall₂_map_left_iff,
    List.forall₂_map_right_iff]
  rfl

theorem runLint_eq_of_respelled {force : Bool} {first second : List String}
    (named : host.tree.SlashFree) (same : ∀ pattern, pattern ∈ first ↔ pattern ∈ second)
    (alike : ∀ path ∈ first.flatMap (filesOf host configuration.root),
      ∀ other ∈ first.flatMap (filesOf host configuration.root), Respelled host path other →
        report host configuration path = report host configuration other) :
    runLint host configuration first force = runLint host configuration second force := by
  rw [runLint_eq_iff, List.forall₂_iff_zip]
  obtain ⟨length, pairs⟩ :=
    List.forall₂_iff_zip.mp (respelled_targets named same configuration force)
  refine ⟨length, fun {path other} pair => ?_⟩
  obtain ⟨left, right⟩ := List.of_mem_zip pair
  -- what the second run picks is found by the first one as well
  have found := (mem_flatMap_filesOf_iff same host configuration.root other).mpr
    (mem_flatMap_of_mem_targets right)
  exact alike path (mem_flatMap_of_mem_targets left) other found (pairs pair)

/-- Two runs over the same patterns find the same, in the same order. Their results are equal
exactly when the spellings that they picked are shown alike and the refused files are spelled alike.
That holds wherever no file is found under two spellings, and for files under the root if none of
them is refused. -/
theorem runLint_of_same_patterns (host : Host) (configuration : Configuration) (force : Bool)
    (first second : List String) (named : host.tree.SlashFree)
    (same : ∀ pattern, pattern ∈ first ↔ pattern ∈ second) :
    let run := fun patterns => runLint host configuration patterns force
    let found := first.flatMap (filesOf host configuration.root)
    List.Forall₂ FileReport.SameFindings (run first).files (run second).files ∧
    (run first).summary = (run second).summary ∧
    (run first).exitStatus = (run second).exitStatus ∧
    (run first = run second ↔
      List.Forall₂ (fun path other =>
          path.displayUnder configuration.root = other.displayUnder configuration.root ∧
            (Refused host configuration path → path = other))
        (targets host configuration first force) (targets host configuration second force)) ∧
    ((∀ path ∈ found, ∀ other ∈ found, path.components = other.components → path = other) →
      run first = run second) ∧
    ((∀ path ∈ found, path.LiesUnder configuration.root ∧ ¬ Refused host configuration path) →
      run first = run second) := by
  intro run found
  have respelled := respelled_targets named same configuration force
  have findings : List.Forall₂ FileReport.SameFindings (run first).files (run second).files := by
    change List.Forall₂ _ (List.map _ _) (List.map _ _)
    rw [List.forall₂_map_left_iff, List.forall₂_map_right_iff]
    exact respelled.imp fun _ _ respelled => respelled.sameFindings configuration
  refine ⟨findings, LintResult.summary_of_sameFindings findings,
    LintResult.exitStatus_of_sameFindings findings, ?_, ?_, ?_⟩
  · obtain ⟨-, pairs⟩ := List.forall₂_iff_zip.mp respelled
    rw [runLint_eq_iff, List.forall₂_iff_zip, List.forall₂_iff_zip]
    constructor
    · intro equal
      exact ⟨equal.1, fun pair => (pairs pair).report_eq_iff.mp (equal.2 pair)⟩
    · intro alike
      exact ⟨alike.1, fun pair => (pairs pair).report_eq_iff.mpr (alike.2 pair)⟩
  · intro unique
    apply runLint_eq_of_respelled named same
    intro path member other member' respelled
    rw [unique path member other member' respelled.same]
  · intro shown
    apply runLint_eq_of_respelled named same
    intro path member other _ respelled
    obtain ⟨under, taken⟩ := shown path member
    rw [respelled.report_eq_iff]
    exact ⟨Path.displayUnder_of_components respelled.same under,
      fun refused => absurd refused taken⟩

/-- A pattern that is given twice and in another place makes no difference. -/
theorem runLint_of_repeated_pattern :
    let host : Host := ⟨⟨[(["a".toList], .directory),
      (["a".toList, "b.css".toList], .file [] false)]⟩, [], fun _ => ⟨[], []⟩⟩
    let configuration : Configuration := { Configuration.standard with missingBlock := .fail }
    host.tree.SlashFree ∧
      runLint host configuration ["a/*.css", "a/b.css"] false =
        runLint host configuration ["a/b.css", "a/*.css", "a/b.css"] false := by
  intro host configuration
  have named : host.tree.SlashFree := by decide
  have same : ∀ pattern, pattern ∈ ["a/*.css", "a/b.css"] ↔
      pattern ∈ ["a/b.css", "a/*.css", "a/b.css"] := by
    intro pattern
    simp only [List.mem_cons, List.not_mem_nil, or_false]
    constructor
    · exact fun member => .inr member
    · exact fun member => member.elim .inr id
  refine ⟨named, ?_⟩
  exact (runLint_of_same_patterns host configuration false _ _ named same).2.2.2.2.1 (by decide)

/-- Two spellings of a refused file give two messages, by the pattern that comes first. -/
theorem runLint_ne_of_two_spellings :
    let host : Host := ⟨⟨[(["a".toList], .directory),
      (["a".toList, "b.css".toList], .file [] false)]⟩, [], fun _ => ⟨[], []⟩⟩
    let configuration : Configuration := { Configuration.standard with missingBlock := .fail }
    let run := fun patterns => runLint host configuration patterns false
    (run ["a/b.css", "a/./b.css"]).files.map FileReport.error =
        [some "no style block marker '<style' found in a/b.css"] ∧
      (run ["a/./b.css", "a/b.css"]).files.map FileReport.error =
        [some "no style block marker '<style' found in a/./b.css"] ∧
      (∀ pattern, pattern ∈ ["a/b.css", "a/./b.css"] ↔ pattern ∈ ["a/./b.css", "a/b.css"]) ∧
      run ["a/b.css", "a/./b.css"] ≠ run ["a/./b.css", "a/b.css"] := by
  intro host configuration run
  have plain : (run ["a/b.css", "a/./b.css"]).files.map FileReport.error =
      [some "no style block marker '<style' found in a/b.css"] := by decide +kernel
  have dotted : (run ["a/./b.css", "a/b.css"]).files.map FileReport.error =
      [some "no style block marker '<style' found in a/./b.css"] := by decide +kernel
  refine ⟨plain, dotted, fun pattern => ?_, ?_⟩
  · exact (List.Perm.swap _ _ []).mem_iff
  · intro equal
    rw [equal, dotted] at plain
    exact absurd plain (by decide)

end LintRun

end SheetLint
