/-
This file says when a path without wildcards in mind finds its file. The root and the path are read
as one pattern, so brackets and stars in their names are read as wildcards.
-/

import SheetLint.Proofs.Glob.Reaching
import SheetLint.Proofs.LintRun.Targets

namespace SheetLint

/-- Read as a pattern, the path is fit by itself, segment by segment. A relative path may not begin
with an empty segment behind its dots, and two stars alone would stand for any directories. -/
structure Path.StandsForItself (path : Path) : Prop where
  fits : ∀ segment ∈ path.segments, Glob.FitsItself segment
  single : ['*', '*'] ∉ path.segments
  start : path.isAbsolute = false → (path.segments.dropWhile (· == ['.'])).head? ≠ some []

instance (path : Path) : Decidable path.StandsForItself :=
  decidable_of_iff (_ ∧ _ ∧ _) ⟨fun parts => ⟨parts.1, parts.2.1, parts.2.2⟩,
    fun clean => ⟨clean.fits, clean.single, clean.start⟩⟩

namespace Path

/-- Without brackets and adjacent stars a path stands for itself, if it starts well. -/
theorem standsForItself_of_bracketFree {path : Path} (bracketFree : '[' ∉ path.characters)
    (apart : ¬ ['*', '*'] <:+: path.characters)
    (start : path.isAbsolute = false → (path.segments.dropWhile (· == ['.'])).head? ≠ some []) :
    path.StandsForItself where
  fits := by
    intro segment member
    have inside := infix_of_mem_segments member
    exact Glob.fitsItself_of_bracketFree (fun bracket => bracketFree (inside.subset bracket))
      fun stars => apart (stars.trans inside)
  single := fun member => apart (infix_of_mem_segments member)
  start := start

end Path

namespace Glob

/-- This is more fuel than there are patterns. -/
def searchFuel (tree : FileTree) (patterns : List Pattern) : Nat :=
  (patterns.length + 1) * (tree.entries.length + 2)

variable {tree : FileTree} {current place : Place} {path : Path}

/-- A path that does not end in a slash is searched by the patterns of its segments. -/
theorem mem_expand_iff (last : path.segments.getLast? ≠ some []) (found : Path) :
    found ∈ expand tree current path.characters ↔
      ∃ patterns, (parse? path.characters).isSome = true ∧
        parseAll? path.segments = some patterns ∧
        found ∈ search ⟨tree, current, false⟩ (searchFuel tree patterns) patterns
          (searchStart path.isAbsolute) := by
  have rooted : (path.characters.head? == some '/') = path.isAbsolute := rfl
  have open_end : (path.characters.getLast? == some '/') = false := by
    rw [beq_eq_false_iff_ne]
    intro closed
    obtain ⟨front, text⟩ := List.getLast?_eq_some_iff.mp closed
    rw [Path.getLast?_segments, text, Path.segmentsOf_append_slash] at last
    exact last List.getLast?_concat
  rw [expand]
  simp only [rooted, open_end]
  have segments : segmentsOf (if path.isAbsolute = true then path.characters.drop 1
      else path.characters) = path.segments := if_neg (by simpa [Path.segments] using last)
  have someText : (if path.isAbsolute = true then path.characters.drop 1
      else path.characters).isEmpty = false := by
    by_contra nothing
    rw [Bool.not_eq_false, List.isEmpty_iff] at nothing
    rw [Path.segments, nothing] at last
    exact last rfl
  rw [segments, someText]
  cases parse? path.characters with
  | none => simp
  | some whole =>
      cases parseAll? path.segments with
      | none => simp
      | some patterns => simp [searchFuel, searchStart]

/-- At its start a search stands before all segments of an admitted path. -/
theorem stands_searchStart (admitted : path.Admitted) (clean : path.StandsForItself) :
    Stands tree current (searchStart path.isAbsolute) (path.origin current) path.segments := by
  have whole := Path.characters_eq path
  have origin : path.origin current = if path.isAbsolute then [] else current := rfl
  rw [Path.rootText] at whole
  cases absolute : path.isAbsolute with
  | true =>
      rw [absolute, if_pos rfl] at whole origin
      refine ⟨⟨List.cons_ne_nil _ _, by decide, by decide⟩, ?_, ?_, fun lone => ?_⟩
      · exact congrArg Except.ok origin.symm
      · change Path.HasRoom ⟨['/'] ++ Path.joinSegments path.segments⟩ 0
        rw [← whole]
        exact ⟨admitted.zeroFree, admitted.short⟩
      · exact absurd lone (by decide)
  | false =>
      rw [absolute, if_neg (by decide)] at whole origin
      rw [List.nil_append] at whole
      refine ⟨⟨List.cons_ne_nil _ _, by decide, by decide⟩, ?_, ?_, fun _ => clean.start absolute⟩
      · exact congrArg Except.ok origin.symm
      · change Path.HasRoom ⟨Path.joinSegments path.segments⟩ 0
        rw [← whole]
        exact ⟨admitted.zeroFree, admitted.short⟩

/-- Only one step leads on by a pattern without wildcards. -/
theorem Leads.eq_under {ground : Ground} {pattern : Pattern} {path next : Path}
    {name : List Char} (leads : Leads ground pattern path next)
    (literal : literal? pattern = some name) : next = under path name := by
  cases leads with
  | dots literal' | written literal' =>
      rw [Option.some.inj (literal'.symm.trans literal)]
  | listed wild | dotted wild => simp [wild] at literal

/-- An empty segment behind lone dots leaves no path to look up. -/
theorem search_eq_nil_of_blank {ground : Ground} {segments : List (List Char)}
    {patterns : List Pattern} (read : ReadFrom segments patterns)
    (blank : (segments.dropWhile (· == ['.'])).head? = some []) (fuel : Nat) :
    search ground fuel patterns ⟨['.']⟩ = [] := by
  rw [List.eq_nil_iff_forall_not_mem]
  intro found member
  induction read generalizing fuel with
  | nil => simp at blank
  | @cons segment pattern segments patterns first later inductionHypothesis =>
      cases fuel with
      | zero => simp [search] at member
      | succ fuel =>
          by_cases dot : segment = ['.']
          · subst dot
            obtain rfl := Option.some.inj first
            obtain ⟨next, leads, member⟩ := (mem_search_cons_iff rfl).mp member
            obtain rfl : next = ⟨['.']⟩ := leads.eq_under rfl
            rw [onward] at member
            cases later with
            | nil => simp at blank
            | cons => exact inductionHypothesis blank fuel member
          · rw [List.dropWhile_cons_of_neg (by simpa using dot)] at blank
            obtain rfl := Option.some.inj blank
            obtain rfl := Option.some.inj first
            obtain ⟨next, leads, -⟩ := (mem_search_cons_iff rfl).mp member
            cases leads with
            | @dots name literal dots =>
                obtain rfl : [] = name := Option.some.inj literal
                exact absurd dots (by decide)
            | @written name literal _ exist =>
                obtain rfl : [] = name := Option.some.inj literal
                exact absurd exist Bool.false_ne_true
            | listed wild | dotted wild => simp [literal?] at wild

end Glob

namespace Glob

variable {tree : FileTree} {current place : Place} {whole : Path}

/-- A file at a path that stands for itself is found. -/
theorem exists_mem_expand (resolved : tree.resolve current whole = .ok place)
    (file : tree.isFileAt place = true) (clean : whole.StandsForItself) :
    ∃ path ∈ expand tree current whole.characters, tree.resolve current path = .ok place := by
  have last := FileTree.getLast?_segments_ne_of_isFileAt resolved file
  have admitted := FileTree.admitted_of_resolve resolved
  have readable : ∀ segment ∈ whole.segments, (parse? segment).isSome = true := by
    intro segment member
    obtain ⟨pattern, read, -⟩ := clean.fits segment member
    rw [read, Option.isSome_some]
  obtain ⟨patterns, read⟩ :=
    Option.isSome_iff_exists.mp ((isSome_parseAll?_iff whole.segments).mpr readable)
  have some : whole.segments ≠ [] := Path.segmentsOf_ne_nil _
  rw [FileTree.resolve_of_admitted admitted] at resolved
  have count := (readFrom_of_parseAll? read).length_eq
  have enough : whole.segments.length ≤ searchFuel tree patterns := by
    rw [searchFuel, count]
    exact (Nat.le_succ _).trans (Nat.le_mul_of_pos_right _ (Nat.succ_pos _))
  have all : (Ground.mk tree current false).directoriesOnly = false := rfl
  obtain ⟨path, member, found⟩ := exists_mem_search all (readFrom_of_parseAll? read) clean.fits
    (fun segment member => ⟨Path.segments_plain whole segment member,
      fun stars => clean.single (stars ▸ member)⟩)
    some enough (stands_searchStart admitted clean) resolved
  exact ⟨path, (mem_expand_iff last path).mpr
    ⟨patterns, isSome_parse?_of_segments readable, read, member⟩, found⟩

/-- A path without steps that go up, and without two stars alone, finds its file only if it stands
for itself. -/
theorem standsForItself_of_mem_expand (named : tree.SlashFree)
    (resolved : tree.resolve current whole = .ok place) (file : tree.isFileAt place = true)
    (descending : whole.Descending) (single : ['*', '*'] ∉ whole.segments) {path : Path}
    (member : path ∈ expand tree current whole.characters)
    (found : tree.resolve current path = .ok place) : whole.StandsForItself := by
  have last := FileTree.getLast?_segments_ne_of_isFileAt resolved file
  obtain ⟨patterns, -, parsed, member⟩ := (mem_expand_iff last path).mp member
  have read := readFrom_of_parseAll? parsed
  have plain := plain_of_readFrom read fun segment member =>
    ⟨Path.segments_plain whole segment member, fun stars => single (stars ▸ member)⟩
  obtain ⟨root, names, steps, spelled⟩ := exists_spelled_of_mem_search named plain member
  rw [(searchStart_eq _).1] at root
  rw [(searchStart_eq _).2, List.nil_append] at steps
  subst steps
  -- no pattern can be left out, since every one of them is needed to get as far as the place
  have least := spelled.length_le read fun step member => (Path.steps_plain path step member).2
  rw [← Path.steps_eq] at least
  have same := FileTree.steps_eq_of_same_place descending resolved found root least
  rw [same, Path.steps_eq] at spelled
  refine ⟨spelled.fitsItself read, single, fun relative blank => ?_⟩
  rw [relative] at member
  change path ∈ search _ _ _ ⟨['.']⟩ at member
  rw [search_eq_nil_of_blank read blank] at member
  exact List.not_mem_nil member

end Glob

namespace LintRun

variable {host : Host} {configuration : Configuration} {place : Place}

/-- A forced run over some patterns reports on the file at a place. -/
def Reports (host : Host) (configuration : Configuration) (patterns : List String)
    (place : Place) : Prop :=
  ∃ path ∈ expandPatterns host configuration.root patterns,
    host.tree.resolve host.current path = .ok place ∧
      report host configuration path ∈ (runLint host configuration patterns true).files

theorem reports_iff (file : host.tree.isFileAt place = true) (patterns : List String) :
    Reports host configuration patterns place ↔
      ∃ pattern ∈ patterns,
        ∃ path ∈ Glob.expand host.tree host.current
            (configuration.root.join (Path.ofString pattern)).characters,
          host.tree.resolve host.current path = .ok place := by
  constructor
  · rintro ⟨path, listed, found, -⟩
    obtain ⟨pattern, member, of_pattern⟩ :=
      (mem_flatMap_filesOf host patterns _ path).mp (mem_of_mem_sortPaths listed)
    exact ⟨pattern, member, path, of_pattern.yielded, found⟩
  · rintro ⟨pattern, member, path, yielded, found⟩
    have isFile : host.isFile path = true := (FileTree.isFile_of_resolve found).trans file
    have listed : path ∈ patterns.flatMap (filesOf host configuration.root) :=
      List.mem_flatMap.mpr ⟨pattern, member, List.mem_filter.mpr ⟨yielded, isFile⟩⟩
    -- the file may be kept under another spelling
    obtain ⟨kept, there, same⟩ := List.mem_map.mp
      ((mem_map_sortPaths _ path.components).mpr (List.mem_map_of_mem listed))
    obtain ⟨_, _, of_kept⟩ :=
      (mem_flatMap_filesOf host patterns _ kept).mp (mem_of_mem_sortPaths there)
    refine ⟨kept, there, ?_, ?_⟩
    · rw [FileTree.resolve_of_components same of_kept.file isFile, found]
    · rw [files_runLint]
      exact List.mem_map_of_mem (List.mem_filter.mpr ⟨there, rfl⟩)

/-- A path that is given to a run is found if it stands for itself. Without steps that go up and
without two stars alone it is found in no other case. Brackets and adjacent stars are what can keep
it from standing for itself. -/
theorem reports_plain_path (host : Host) (configuration : Configuration) (pattern : String)
    (place : Place)
    (resolved : host.tree.resolve host.current
      (configuration.root.join (Path.ofString pattern)) = .ok place)
    (file : host.tree.isFileAt place = true) :
    let whole := configuration.root.join (Path.ofString pattern)
    (whole.StandsForItself → ∀ patterns, pattern ∈ patterns →
      Reports host configuration patterns place) ∧
    (host.tree.SlashFree → whole.Descending → ['*', '*'] ∉ whole.segments →
      (Reports host configuration [pattern] place ↔ whole.StandsForItself)) ∧
    ('[' ∉ whole.characters → ¬ ['*', '*'] <:+: whole.characters →
      (whole.isAbsolute = false → (whole.segments.dropWhile (· == ['.'])).head? ≠ some []) →
      whole.StandsForItself) := by
  intro whole
  refine ⟨fun clean patterns listed => ?_, fun named descending single => ⟨?_, fun clean => ?_⟩,
    Path.standsForItself_of_bracketFree⟩
  · exact (reports_iff file patterns).mpr
      ⟨pattern, listed, Glob.exists_mem_expand resolved file clean⟩
  · intro reported
    obtain ⟨other, listed, path, member, found⟩ := (reports_iff file [pattern]).mp reported
    obtain rfl := List.mem_singleton.mp listed
    exact Glob.standsForItself_of_mem_expand named resolved file descending single member found
  · exact (reports_iff file [pattern]).mpr
      ⟨pattern, List.mem_singleton_self pattern, Glob.exists_mem_expand resolved file clean⟩

/-- A path with a question mark and a single star in its names is found, even over a parent. -/
theorem reports_plain_path_of_wildcards :
    let host : Host := ⟨⟨[(["w*".toList], .directory),
      (["w*".toList, "a?.css".toList], .file [] false)]⟩, [], fun _ => ⟨[], []⟩⟩
    let configuration : Configuration :=
      { Configuration.standard with root := Path.ofString "./w*" }
    let place : Place := ["w*".toList, "a?.css".toList]
    host.tree.resolve host.current (configuration.root.join (Path.ofString "../w*//a?.css")) =
        .ok place ∧
      host.tree.isFileAt place = true ∧
      Reports host configuration ["b.css", "../w*//a?.css"] place := by
  intro host configuration place
  have resolved : host.tree.resolve host.current
      (configuration.root.join (Path.ofString "../w*//a?.css")) = .ok place := by decide
  have file : host.tree.isFileAt place = true := by decide
  refine ⟨resolved, file, ?_⟩
  obtain ⟨found, -, plain⟩ := reports_plain_path host configuration _ place resolved file
  exact found (plain (by decide) (by decide) (by decide)) _ (by decide)

/-- Brackets in the name of a file, or in the root, make a class of characters, and the file is not
found. -/
theorem not_reports_of_brackets :
    (let host : Host := ⟨⟨[(["pages".toList], .directory),
        (["pages".toList, "[id].vue".toList], .file [] false)]⟩, [], fun _ => ⟨[], []⟩⟩
      let configuration : Configuration := { Configuration.standard with root := Path.ofString "." }
      let place : Place := ["pages".toList, "[id].vue".toList]
      host.tree.resolve host.current (configuration.root.join (Path.ofString "pages/[id].vue")) =
          .ok place ∧
        host.tree.isFileAt place = true ∧ ¬ Reports host configuration ["pages/[id].vue"] place) ∧
    (let host : Host := ⟨⟨[(["[app]".toList], .directory),
        (["[app]".toList, "a.css".toList], .file [] false)]⟩, [], fun _ => ⟨[], []⟩⟩
      let configuration : Configuration :=
        { Configuration.standard with root := Path.ofString "[app]" }
      let place : Place := ["[app]".toList, "a.css".toList]
      host.tree.resolve host.current (configuration.root.join (Path.ofString "a.css")) =
          .ok place ∧
        host.tree.isFileAt place = true ∧ ¬ Reports host configuration ["a.css"] place) := by
  constructor
  · intro host configuration place
    have nothing : expandPatterns host configuration.root ["pages/[id].vue"] = [] := by decide
    refine ⟨by decide, by decide, ?_⟩
    rintro ⟨path, member, -⟩
    rw [nothing] at member
    exact List.not_mem_nil member
  · intro host configuration place
    have nothing : expandPatterns host configuration.root ["a.css"] = [] := by decide
    refine ⟨by decide, by decide, ?_⟩
    rintro ⟨path, member, -⟩
    rw [nothing] at member
    exact List.not_mem_nil member

end LintRun

end SheetLint
