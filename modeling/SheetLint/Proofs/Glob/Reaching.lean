/-
This file shows that a search reaches every place that the segments of its patterns lead to, if each
segment fits itself.
-/

import SheetLint.Proofs.FileTree.Stepping
import SheetLint.Proofs.Glob.Direct

namespace SheetLint

namespace Glob

/-- A relative path that leads nowhere is a lone dot. -/
theorem loneDot_of_steps {path : Path} (someText : path.characters ≠ [])
    (relative : path.isAbsolute = false) (nowhere : path.steps = []) :
    path.components = [.current] := by
  obtain ⟨character, rest, text⟩ := List.exists_cons_of_ne_nil someText
  have plain : character ≠ '/' := by simpa [Path.isAbsolute, text] using relative
  obtain ⟨segment, segments, cut⟩ :=
    List.exists_cons_of_ne_nil (Path.segmentsOf_ne_nil rest)
  have whole : path.segments = (character :: segment) :: segments := by
    rw [Path.segments, relative, text]
    exact Path.segmentsOf_cons plain cut
  have trivial : Path.isTrivial (character :: segment) = true := by
    rw [Path.steps_eq, whole, Path.stepsOf_eq_nil_iff] at nowhere
    exact nowhere _ List.mem_cons_self
  have dot : character :: segment = ['.'] := by simpa [Path.isTrivial] using trivial
  rw [Path.components_eq, nowhere, Path.lead, Path.startsWithDot, relative, whole, dot]
  rfl

/-- A search stands at a path that leads to a place, and some segments are left to follow. Behind a
lone dot an empty segment would leave no text at all. -/
structure Stands (tree : FileTree) (current : Place) (path : Path) (place : Place)
    (segments : List (List Char)) : Prop where
  admitted : path.Admitted
  arrives : tree.follow (path.origin current) path.steps = .ok place
  room : Path.HasRoom ⟨before path ++ Path.joinSegments segments⟩ 0
  start : path.components = [.current] → (segments.dropWhile (· == ['.'])).head? ≠ some []

variable {tree : FileTree} {current place further : Place} {path : Path} {segment : List Char}
  {segments : List (List Char)}

/-- A path that a search goes on from by a lone name is a lone dot. -/
theorem loneDot_of_before (someText : path.characters ≠ []) (nothing : before path = []) :
    path.components = [.current] := by
  by_contra other
  rw [before, if_neg (by simpa using other)] at nothing
  split at nothing
  · exact someText nothing
  · simp at nothing

theorem Stands.admitted_under (stands : Stands tree current path place (segment :: segments))
    (plain : '/' ∉ segment) : (under path segment).Admitted := by
  have begins : before path ++ segment <+: before path ++ Path.joinSegments (segment :: segments) :=
    (List.prefix_append_right_inj _).mpr (Path.segment_prefix_joinSegments segment segments)
  have less := Text.byteCount_le_of_prefix begins
  rw [under_eq path plain]
  refine ⟨?_, fun zero => stands.room.zeroFree (begins.subset zero),
    Nat.lt_of_le_of_lt less stands.room.short⟩
  intro nothing
  obtain ⟨first, second⟩ := List.append_eq_nil_iff.mp nothing
  have start := stands.start (loneDot_of_before stands.admitted.someText first)
  simp [second] at start

theorem Stands.resolve (stands : Stands tree current path place (segment :: segments))
    (directory : tree.isDirectoryAt place = true) : tree.resolve current path = .ok place :=
  FileTree.Reaches.resolve ⟨stands.arrives, directory⟩ stands.admitted

theorem origin_under (path : Path) (plain : '/' ∉ segment) (current : Place) :
    (under path segment).origin current = path.origin current := by
  rw [Path.origin, Path.origin, isAbsolute_under path plain]

theorem Stands.resolve_under (stands : Stands tree current path place (segment :: segments))
    (plain : '/' ∉ segment) (stepped : tree.step place segment = .ok further) :
    tree.resolve current (under path segment) = .ok further := by
  have directory := FileTree.isDirectoryAt_of_step stepped
  have admitted := stands.admitted_under plain
  cases trivial : Path.isTrivial segment with
  | true =>
      rw [FileTree.step_of_trivial directory trivial, Except.ok.injEq] at stepped
      rw [← stepped]
      refine FileTree.Reaches.resolve ⟨?_, directory⟩ admitted
      rw [origin_under path plain, steps_under path plain, Path.steps_of_isTrivial trivial,
        List.append_nil]
      exact stands.arrives
  | false =>
      rw [FileTree.resolve_eq_follow_steps admitted (getLast?_segments_under path plain) trivial,
        origin_under path plain, steps_under path plain, Path.steps_of_name plain trivial,
        FileTree.follow_append_of_ok stands.arrives, FileTree.follow, stepped]
      rfl

theorem before_subset (path : Path) : before path ⊆ '/' :: path.characters := by
  rw [before]
  split
  · exact List.nil_subset _
  · split
    · exact List.subset_cons_self _ _
    · simp

/-- Every segment takes up its own bytes and one for the slash behind it. -/
theorem byteCount_joinSegments_cons (segment : List Char) (more : segments ≠ []) :
    Text.byteCount (Path.joinSegments (segment :: segments)) =
      Text.byteCount segment + 1 + Text.byteCount (Path.joinSegments segments) := by
  have slash : '/'.utf8Size = 1 := by decide
  rw [Path.joinSegments_cons segment more, Text.byteCount_append, Text.byteCount_cons, slash,
    Nat.add_assoc]

theorem Stands.room_under (stands : Stands tree current path place (segment :: segments))
    (plain : '/' ∉ segment) (more : segments ≠ []) :
    Path.HasRoom ⟨before (under path segment) ++ Path.joinSegments segments⟩ 0 := by
  have admitted := stands.admitted_under plain
  constructor
  · intro zero
    rcases List.mem_append.mp zero with first | second
    · rcases List.mem_cons.mp (before_subset _ first) with slash | inside
      · exact absurd slash (by decide)
      · exact admitted.zeroFree inside
    · apply stands.room.zeroFree
      rw [Path.joinSegments_cons segment more]
      simp [second]
  · have less := byteCount_before_le (under path segment)
    have short := stands.room.short
    rw [under_eq path plain, Text.byteCount_append] at less
    rw [Text.byteCount_append, byteCount_joinSegments_cons segment more] at short
    rw [under_eq path plain, Text.byteCount_append]
    omega

/-- From where a search stands it goes on by its next segment. -/
theorem Stands.next (stands : Stands tree current path place (segment :: segments))
    (plain : '/' ∉ segment) (stepped : tree.step place segment = .ok further)
    (more : segments ≠ []) : Stands tree current (under path segment) further segments where
  admitted := stands.admitted_under plain
  arrives := FileTree.follow_steps_of_resolve (stands.resolve_under plain stepped)
  room := stands.room_under plain more
  start := by
    intro lone
    obtain ⟨relative, nowhere⟩ := lead_of_loneDot lone
    rw [isAbsolute_under path plain] at relative
    rw [steps_under path plain, List.append_eq_nil_iff] at nowhere
    have start := stands.start
      (loneDot_of_steps stands.admitted.someText relative nowhere.1)
    -- the segment is another dot, for it cannot be empty here
    have trivial : Path.isTrivial segment = true := by
      by_contra names
      rw [Path.steps_of_name plain (by simpa using names)] at nowhere
      simp at nowhere
    rcases (Path.isTrivial_iff segment).mp trivial with rfl | rfl
    · simp at start
    · exact start

/-- The next segment of a search is among the ways that its pattern leads, if it fits the pattern.
-/
theorem Stands.leads {ground : Ground}
    (stands : Stands ground.tree ground.current path place (segment :: segments))
    (plain : '/' ∉ segment) (stepped : ground.tree.step place segment = .ok further)
    {pattern : Pattern} (read : parse? segment = some pattern)
    (fit : fits pattern segment = true) : Leads ground pattern path (under path segment) := by
  have inside := FileTree.isDirectoryAt_of_step stepped
  have here := stands.resolve inside
  have directory : ground.isDirectory path = true := by
    rw [Ground.isDirectory, FileTree.isDirectory, FileTree.lookup?, here]
    exact inside
  cases literal : literal? pattern with
  | some written =>
      obtain rfl := eq_of_literal?_parse? read literal
      by_cases dots : written ∈ dotNames
      · exact .dots literal dots directory
      · refine .written literal dots ?_
        rw [FileTree.pathExists, FileTree.lookup?, stands.resolve_under plain stepped]
        exact FileTree.isSome_get?_of_step stepped fun up => dots (up ▸ by decide)
  | none =>
      have names : ¬ (Path.isTrivial segment = true ∨ segment = ['.', '.']) := by
        intro nameless
        rw [literal?_of_nameless nameless read] at literal
        simp at literal
      rw [not_or, Bool.not_eq_true] at names
      have entry := FileTree.isSome_get?_of_step stepped names.2
      rw [FileTree.eq_of_step stepped names.1 names.2] at entry
      have steps := steps_under path plain
      rw [Path.steps_of_name plain names.1] at steps
      have named := (Path.fileName?_of_steps steps).trans (if_neg names.2)
      refine .listed literal directory ?_ named fit
      rw [Ground.names, here]
      exact FileTree.mem_children_of_get? entry

/-- A search finds what the segments lead to, if each of them fits its own pattern. -/
theorem exists_mem_search {ground : Ground} (all : ground.directoriesOnly = false)
    {patterns : List Pattern} (read : ReadFrom segments patterns)
    (fit : ∀ segment ∈ segments, FitsItself segment)
    (plain : ∀ segment ∈ segments, '/' ∉ segment ∧ segment ≠ ['*', '*']) (some : segments ≠ [])
    {fuel : Nat} (enough : segments.length ≤ fuel) {target : Place}
    (stands : Stands ground.tree ground.current path place segments)
    (arrives : ground.tree.follow place segments = .ok target) :
    ∃ found ∈ search ground fuel patterns path,
      ground.tree.resolve ground.current found = .ok target := by
  induction read generalizing fuel path place with
  | nil => exact absurd rfl some
  | @cons segment pattern segments patterns first later inductionHypothesis =>
      rw [List.forall_mem_cons] at fit plain
      obtain ⟨pattern', read, fit'⟩ := fit.1
      obtain rfl := Option.some.inj (read.symm.trans first)
      obtain ⟨fuel, rfl⟩ := Nat.exists_eq_add_one_of_ne_zero (Nat.ne_zero_of_lt enough)
      rw [FileTree.follow] at arrives
      cases stepped : ground.tree.step place segment with
      | error cause => simp [stepped] at arrives
      | ok further =>
          simp only [stepped] at arrives
          have leads := stands.leads plain.1.1 stepped read fit'
          have behind : ∃ found ∈ onward ground fuel patterns (under path segment),
              ground.tree.resolve ground.current found = .ok target := by
            rw [onward]
            cases later with
            | nil =>
                obtain rfl := Except.ok.inj arrives
                refine ⟨_, ?_, stands.resolve_under plain.1.1 stepped⟩
                simp [Ground.wanted, all]
            | cons next more =>
                exact inductionHypothesis fit.2 plain.2 (List.cons_ne_nil _ _)
                  (Nat.le_of_succ_le_succ enough)
                  (stands.next plain.1.1 stepped (List.cons_ne_nil _ _)) arrives
          obtain ⟨found, member, resolved⟩ := behind
          have single := isRecursive_of_parse? plain.1.1 plain.1.2 first
          exact ⟨found, (mem_search_cons_iff single).mpr ⟨_, leads, member⟩, resolved⟩

end Glob

end SheetLint
