/-
This file says when the files under a root are shown by their ways from the root. Those ways are
told from the texts of paths, and a search spells its paths in another way than the root is spelled.
-/

import SheetLint.Proofs.FileTree.Stepping
import SheetLint.Proofs.Glob.Direct
import SheetLint.Proofs.LintRun.Targets
import SheetLint.Proofs.Path.Relative
import SheetLint.Proofs.Settings.Root

namespace SheetLint

namespace Glob

/-- The segment is no step that goes up, and a dot at its start has no wildcard behind it. -/
structure Undotted (segment : List Char) : Prop where
  down : segment ≠ ['.', '.']
  dotless : segment.head? = some '.' → ∀ character ∈ segment, character ∉ wildcards

instance (segment : List Char) : Decidable (Undotted segment) :=
  -- the characters of the segment are tried, not all characters that there are
  let _ : Decidable (∀ character ∈ segment, character ∉ wildcards) :=
    List.decidableBAll _ segment
  decidable_of_iff (_ ∧ _) ⟨fun parts => ⟨parts.1, parts.2⟩, fun undotted =>
    ⟨undotted.down, undotted.dotless⟩⟩

variable {tree : FileTree} {current : Place} {whole path : Path}

/-- What is found starts from the top exactly when the whole pattern does. -/
theorem isAbsolute_of_mem_expand (named : tree.SlashFree)
    (member : path ∈ expand tree current whole.characters) :
    path.isAbsolute = whole.isAbsolute := by
  refine expand_induction named (motive := fun path => path.isAbsolute = whole.isAbsolute)
    (searchStart_eq _).1 ?_ current path member
  intro ground patterns path name next _ _ offers plain here
  exact (offers.isAbsolute_and_steps plain).1.trans here

/-- A path that starts with a dot goes nowhere, or up. -/
def DotGoesNowhere (path : Path) : Prop :=
  path.startsWithDot = true → path.Descending → path.steps = []

theorem dotGoesNowhere_name {name : List Char} (plain : '/' ∉ name) : DotGoesNowhere ⟨name⟩ := by
  intro dot _
  rw [Path.eq_dot_of_startsWithDot plain dot]
  rfl

/-- Before a name that does not go up, a path that starts with a dot goes nowhere. -/
theorem DotGoesNowhere.before_name (here : DotGoesNowhere path) (someText : path.characters ≠ [])
    {name : List Char} (plain : '/' ∉ name) (dot : (path.join ⟨name⟩).startsWithDot = true)
    (descending : (path.join ⟨name⟩).Descending) : path.components = [.current] := by
  rw [Path.startsWithDot_join someText plain] at dot
  rw [Path.Descending, Path.steps_join path (Path.isAbsolute_of_name plain), List.mem_append,
    not_or] at descending
  exact Path.components_of_startsWithDot dot (here dot descending.1)

/-- What is found has no dot before its steps, unless one of them goes up. -/
theorem dotGoesNowhere_of_mem_expand (named : tree.SlashFree)
    (member : path ∈ expand tree current whole.characters) : DotGoesNowhere path := by
  refine expand_induction named (motive := DotGoesNowhere) ?_ ?_ current path member
  · exact fun _ _ => (searchStart_eq _).2
  · intro ground patterns path name next _ _ offers plain here
    by_cases someText : path.characters = []
    · have alone : path.join ⟨name⟩ = ⟨name⟩ := by
        rw [Path.join_of_relative (Path.isAbsolute_of_name plain), someText]
        rfl
      have same : next = ⟨name⟩ := by
        cases offers with
        | written | listed => rw [under, alone, ite_self]
        | dotted => exact alone
      rw [same]
      exact dotGoesNowhere_name plain
    · cases offers with
      | written | listed =>
          rw [under]
          split
          · exact dotGoesNowhere_name plain
          · rename_i lone
            intro dot descending
            exact absurd (beq_iff_eq.mpr (here.before_name someText plain dot descending)) lone
      | dotted _ _ _ dots =>
          intro dot descending
          have lone := here.before_name someText plain dot descending
          have steps := Path.steps_join path (Path.isAbsolute_of_name plain)
          rw [(lead_of_loneDot lone).2, List.nil_append] at steps
          rw [Path.Descending, steps] at descending
          rw [steps]
          rcases List.mem_pair.mp dots with rfl | rfl
          · rfl
          · exact absurd (by decide) descending

/-- Only a segment that goes up, or a wildcard behind a dot, finds a path that goes up. -/
theorem descending_of_mem_expand (named : tree.SlashFree)
    (nameless : ∀ entry ∈ tree.entries, ['.', '.'] ∉ entry.1)
    (undotted : ∀ segment ∈ whole.segments, Undotted segment)
    (member : path ∈ expand tree current whole.characters) : path.Descending := by
  refine expand_induction named (motive := Path.Descending) ?_ ?_ current path member
  · rw [Path.Descending, (searchStart_eq _).2]
    exact List.not_mem_nil
  · rintro ground patterns path name next rfl read offers plain here
    have listed : ∀ segment ∈ searchedSegments whole.characters, Undotted segment := by
      rw [searchedSegments, List.forall_mem_cons]
      exact ⟨by decide, fun segment inside => undotted segment (segmentsOf_subset _ inside)⟩
    have down : name ≠ ['.', '.'] := by
      rintro rfl
      cases offers with
      | written member literal =>
          obtain ⟨segment, inside, read⟩ := read _ member
          exact (listed segment inside).down (eq_of_literal?_parse? read literal).symm
      | listed member =>
          obtain ⟨entry, inside, up⟩ := exists_entry_of_mem_names member
          exact nameless entry inside up
      | dotted member wild first =>
          obtain ⟨segment, inside, read⟩ := read _ member
          have free := (listed segment inside).dotless (head?_of_readTokens read first)
          have literal := literal?_of_wildcardFree read free
          rw [wild] at literal
          exact absurd literal (by decide)
    rw [Path.Descending, (offers.isAbsolute_and_steps plain).2, List.mem_append, not_or]
    refine ⟨here, fun up => ?_⟩
    cases trivial : Path.isTrivial name with
    | true =>
        rw [Path.steps_of_isTrivial trivial] at up
        exact List.not_mem_nil up
    | false =>
        rw [Path.steps_of_name plain trivial, List.mem_singleton] at up
        exact down up.symm

end Glob

namespace LintRun

variable {host : Host} {root path : Path} {place file : Place}

/-- A path is shown by the way from the root, a directory at some place, to its file: a relative
path that never goes up, and that leads to the file from the root as well, if the system takes it.
-/
structure ShownFromRoot (host : Host) (root path : Path) (place file : Place) : Prop where
  relative : (path.displayUnder root).isAbsolute = false
  descending : (path.displayUnder root).Descending
  way : file = place ++ (path.displayUnder root).steps
  joined : (root.join (path.displayUnder root)).Admitted →
    host.tree.resolve host.current (root.join (path.displayUnder root)) = .ok file

theorem reaches_of_denotes (denotes : host.Denotes root place) :
    host.tree.Reaches host.current root place := by
  refine ⟨?_, denotes.directory⟩
  have arrives := FileTree.follow_steps_of_resolve denotes.resolved
  split at arrives
  · rename_i nothing
    rcases root with ⟨text⟩
    obtain rfl : text = [] := List.isEmpty_iff.mp nothing
    exact arrives
  · exact arrives

theorem getLast?_segments_joinAll (base : Path) (front : List (List Char)) {last : List Char}
    (plain : '/' ∉ last) : (base.joinAll (front ++ [last])).segments.getLast? = some last := by
  rw [Path.joinAll, List.foldl_append]
  exact Path.getLast?_segments_join _ plain

/-- Behind the steps of a root that is not led by a dot the rest of a path shows its file. -/
theorem shownFromRoot_of_prefix (top : path.isAbsolute = root.isAbsolute)
    (undotted : path.startsWithDot = false) (led : ¬ root.LedByDot)
    (reaches : host.tree.Reaches host.current root place) (plain : root.Descending)
    (resolved : host.tree.resolve host.current path = .ok file) (descending : path.Descending)
    (isFile : host.tree.isFileAt file = true) (begins : root.steps <+: path.steps) :
    ShownFromRoot host root path place file := by
  obtain ⟨rest, whole, more, there⟩ :=
    FileTree.exists_rest_of_prefix top reaches plain resolved descending isFile begins
  have plainRest (step : List Char) (member : step ∈ rest) :
      '/' ∉ step ∧ Path.isTrivial step = false :=
    Path.steps_plain path step (whole ▸ List.mem_append_right _ member)
  have relative := Path.isAbsolute_joinAll ⟨[]⟩ fun step member => (plainRest step member).1
  have steps := Path.steps_joinAll ⟨[]⟩ plainRest
  rw [Path.steps_empty, List.nil_append] at steps
  have shown := Path.displayUnder_of_prefix top undotted led descending more whole
  refine ⟨?_, ?_, ?_, ?_⟩ <;> rw [shown]
  · exact relative
  · rw [Path.Descending, steps]
    exact fun up => descending (whole ▸ List.mem_append_right _ up)
  · rw [steps]
    exact there
  · intro admitted
    obtain ⟨front, last, rfl⟩ := (List.eq_nil_or_concat' rest).resolve_left more
    have plainLast := plainRest last (List.mem_append_right _ List.mem_cons_self)
    refine FileTree.resolve_of_same_steps resolved admitted ?_ ?_ ?_ plainLast.2
    · rw [Path.isAbsolute_join root relative, top]
    · rw [Path.steps_join root relative, steps, whole]
    · rw [Path.getLast?_segments_join_relative root relative]
      exact getLast?_segments_joinAll _ front plainLast.1

/-- Under a root that never goes up, a file that a relative pattern finds is named by its way from
the root, unless the root is led by a dot or the path that was found goes up. A file outside keeps
its path, unless the root is led by a dot. Files with such names are told apart by them. -/
theorem report_named_from_root (host : Host) (configuration : Configuration) (pattern : String)
    (path : Path) (place file : Place) (named : host.tree.SlashFree)
    (plain : configuration.root.Descending)
    (relative : (Path.ofString pattern).isAbsolute = false)
    (denotes : host.Denotes configuration.root place)
    (found : Found host configuration.root pattern path)
    (resolved : host.tree.resolve host.current path = .ok file) :
    let root := configuration.root
    let name := (report host configuration path).file
    (place <+: file →
      (name = (path.displayUnder root).toString ∧ ShownFromRoot host root path place file ↔
        path.Descending ∧ ¬ root.LedByDot)) ∧
    (¬ place <+: file → path.Descending → (name = path.toString ↔ ¬ root.LedByDot)) ∧
    ((∀ segment ∈ (root.join (Path.ofString pattern)).segments, Glob.Undotted segment) →
      (∀ entry ∈ host.tree.entries, ['.', '.'] ∉ entry.1) → path.Descending) ∧
    (∀ other file', ShownFromRoot host root path place file →
      ShownFromRoot host root other place file' → file ≠ file' →
      (report host configuration other).file ≠ name) := by
  intro root name
  have shown : name = (path.displayUnder root).toString := file_report host configuration path
  have top : path.isAbsolute = root.isAbsolute :=
    (Glob.isAbsolute_of_mem_expand named found.yielded).trans (Path.isAbsolute_join root relative)
  have reaches := reaches_of_denotes denotes
  have isFile : host.tree.isFileAt file = true := by
    rw [← FileTree.isFile_of_resolve resolved]
    exact found.file
  have some := FileTree.steps_ne_nil_of_isFileAt resolved isFile
  have undotted (descending : path.Descending) : path.startsWithDot = false := by
    by_contra dot
    rw [Bool.not_eq_false] at dot
    exact some (Glob.dotGoesNowhere_of_mem_expand named found.yielded dot descending)
  refine ⟨fun under => ⟨?_, ?_⟩, fun outside descending => ⟨?_, ?_⟩, ?_, ?_⟩
  · rintro ⟨-, fromRoot⟩
    have descending : path.Descending := by
      by_contra goesUp
      exact Path.not_descending_displayUnder plain goesUp fromRoot.descending
    exact ⟨descending, fun led => Path.displayUnder_of_ledByDot top (undotted descending) led some
      plain descending fromRoot.descending⟩
  · rintro ⟨descending, led⟩
    exact ⟨shown, shownFromRoot_of_prefix top (undotted descending) led reaches plain resolved
      descending isFile
      ((FileTree.isPrefix_iff_of_descending top reaches plain resolved descending).mp under)⟩
  · intro own led
    rw [shown, Path.toString_inj] at own
    exact Path.displayUnder_of_ledByDot top (undotted descending) led some plain descending
      (own.symm ▸ descending)
  · intro led
    rw [shown, Path.displayUnder_of_not_prefix top (undotted descending) led some plain]
    exact fun begins => outside
      ((FileTree.isPrefix_iff_of_descending top reaches plain resolved descending).mpr begins)
  · exact fun undotted nameless =>
      Glob.descending_of_mem_expand named nameless undotted found.yielded
  · intro other file' fromRoot fromRoot' different same
    rw [shown, file_report, Path.toString_inj] at same
    have way := fromRoot'.way
    rw [same, ← fromRoot.way] at way
    exact different way.symm

/-- A root that is spelled with a dot at its end does not show in the names. -/
theorem report_named_from_root_of_relative_root :
    let host : Host := ⟨⟨[(["web".toList], .directory),
      (["web".toList, "a.css".toList], .file [] false)]⟩, [], fun _ => ⟨[], []⟩⟩
    let configuration : Configuration :=
      { Configuration.standard with root := Path.ofString "web/." }
    let path := Path.ofString "web/./a.css"
    let place : Place := ["web".toList]
    let file : Place := ["web".toList, "a.css".toList]
    configuration.root.Descending ∧ host.Denotes configuration.root place ∧
      Found host configuration.root "*.css" path ∧
      host.tree.resolve host.current path = .ok file ∧
      (report host configuration path).file = "a.css" ∧
      ShownFromRoot host configuration.root path place file := by
  intro host configuration path place file
  have plain : configuration.root.Descending := by decide
  have denotes : host.Denotes configuration.root place := ⟨by decide, by decide⟩
  have found : Found host configuration.root "*.css" path :=
    ⟨⟨by decide, by decide⟩, by decide, by decide⟩
  have resolved : host.tree.resolve host.current path = .ok file := by decide
  obtain ⟨under, -, descending, -⟩ := report_named_from_root host configuration "*.css" path place
    file (by decide) plain (by decide) denotes found resolved
  obtain ⟨shown, fromRoot⟩ :=
    (under (by decide)).mpr ⟨descending (by decide) (by decide), by decide⟩
  have name : (path.displayUnder configuration.root).toString = "a.css" := by decide
  exact ⟨plain, denotes, found, resolved, shown.trans name, fromRoot⟩

/-- A root that is led by a dot makes names that go up, though the file lies under the root. -/
theorem not_shownFromRoot_of_dot :
    let host : Host := ⟨⟨[(["web".toList], .directory),
      (["web".toList, "a.css".toList], .file [] false)]⟩, [], fun _ => ⟨[], []⟩⟩
    let configuration : Configuration :=
      { Configuration.standard with root := Path.ofString "./web" }
    let path := Path.ofString "web/a.css"
    let place : Place := ["web".toList]
    let file : Place := ["web".toList, "a.css".toList]
    configuration.root.Descending ∧ host.Denotes configuration.root place ∧
      Found host configuration.root "*.css" path ∧
      host.tree.resolve host.current path = .ok file ∧
      (report host configuration path).file = "web/../a.css" ∧
      ¬ ShownFromRoot host configuration.root path place file := by
  intro host configuration path place file
  have name : (path.displayUnder configuration.root).toString = "web/../a.css" := by decide
  refine ⟨by decide, ⟨by decide, by decide⟩, ⟨⟨by decide, by decide⟩, by decide, by decide⟩,
    by decide, (file_report host configuration path).trans name, fun fromRoot => ?_⟩
  exact absurd fromRoot.descending (by decide)

end LintRun

end SheetLint
