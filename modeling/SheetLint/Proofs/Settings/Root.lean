/-
This file says when the search for the root of a project finds the nearest directory that is marked
as one. The search goes through the text of a path, so it passes the places that the steps of the
path pass, and it ends where a relative path begins.
-/

import SheetLint.Proofs.FileTree.Joining
import SheetLint.Settings.File

namespace SheetLint

/-- These are the names that mark a directory as the root of a project. -/
def rootMarks : List String :=
  ["stylebridge.toml", "stylebridge.yaml", "stylebridge.yml", ".git"]

namespace FileTree

/-- The directory has an entry that marks it as the root of a project. -/
def isMarked (tree : FileTree) (place : Place) : Bool :=
  rootMarks.any fun mark => (tree.get? (place ++ [mark.toList])).isSome

/-- This is the nearest marked directory among a place and all places above it. -/
def nearestRoot? (tree : FileTree) (place : Place) : Option Place :=
  place.upward.find? tree.isMarked

end FileTree

/-- The path denotes the directory. A path without text denotes the current one. -/
structure Host.Denotes (host : Host) (path : Path) (place : Place) : Prop where
  resolved : host.tree.resolve host.current
    (if path.characters.isEmpty then ⟨['.']⟩ else path) = .ok place
  directory : host.tree.isDirectoryAt place = true

namespace Settings

/-- From the directory at a place, which the start denotes, the search finds the nearest root, or
gives the start back where there is none. -/
def FindsRoot (host : Host) (start : Path) (place : Place) : Prop :=
  match host.tree.nearestRoot? place with
  | some root => host.Denotes (detectRoot host start) root
  | .none => detectRoot host start = start

/-- This is the number of bytes that a mark takes up behind a path. -/
def markRoom : Nat := 17

theorem entryName_of_mem_rootMarks {mark : String} (member : mark ∈ rootMarks) :
    EntryName mark.toList ∧ Text.byteCount mark.toList + 1 ≤ markRoom := by
  simp only [rootMarks, List.mem_cons, List.not_mem_nil, or_false] at member
  rcases member with rfl | rfl | rfl | rfl <;>
    exact ⟨⟨by decide, by decide, by decide, by decide, by decide⟩, by decide⟩

variable {host : Host} {start : Path} {place : Place}

/-- A directory ends the search exactly when it is marked. -/
theorem marksRoot_of_reaches {path : Path} (room : path.HasRoom markRoom)
    (reaches : host.tree.Reaches host.current path place) :
    marksRoot host path = host.tree.isMarked place := by
  have marks : fileNames.map Prod.fst ++ [".git"] = rootMarks := rfl
  rw [marksRoot, FileTree.isMarked, marks, Bool.eq_iff_iff, List.any_eq_true, List.any_eq_true]
  refine exists_congr fun mark => and_congr_right fun member => ?_
  obtain ⟨fits, less⟩ := entryName_of_mem_rootMarks member
  have enough : path.HasRoom (Text.byteCount mark.toList + 1) :=
    ⟨room.zeroFree, by have short := room.short; omega⟩
  rw [Host.pathExists, Path.ofString, reaches.pathExists_join fits enough]

/-- A path with some room behind it denotes the directory that it reaches. -/
theorem denotes_of_reaches {path : Path} (room : path.HasRoom markRoom)
    (reaches : host.tree.Reaches host.current path place) : host.Denotes path place := by
  refine ⟨?_, reaches.directory⟩
  rcases path with ⟨text⟩
  cases text with
  | nil =>
      have dot : host.tree.Reaches host.current ⟨['.']⟩ place :=
        ⟨reaches.arrives, reaches.directory⟩
      exact dot.resolve ⟨List.cons_ne_nil _ _, by decide, by decide⟩
  | cons character text =>
      have short := room.short
      exact reaches.resolve ⟨List.cons_ne_nil _ _, room.zeroFree, by omega⟩

theorem Denotes.unique {path : Path} {other : Place} (first : host.Denotes path place)
    (second : host.Denotes path other) : place = other := by
  have same := first.resolved
  rw [second.resolved, Except.ok.injEq] at same
  exact same.symm

/-- The search gives the first marked place that the steps of its start pass. -/
theorem detectRoot_eq_station (room : start.HasRoom markRoom)
    (reaches : host.tree.Reaches host.current start place) :
    match (host.tree.stations (start.origin host.current) start.steps).find?
        host.tree.isMarked with
    | some root => host.Denotes (detectRoot host start) root
    | .none => detectRoot host start = start := by
  have judged : ∀ path place, path.Begins start → host.tree.Reaches host.current path place →
      marksRoot host path = host.tree.isMarked place :=
    fun path place begins reaches => marksRoot_of_reaches (room.begins begins) reaches
  have found := FileTree.firstUpward_stations judged
    (Path.Begins.refl start) reaches
  rw [detectRoot]
  generalize start.firstUpward (marksRoot host) = first at found ⊢
  generalize (host.tree.stations _ _).find? host.tree.isMarked = station at found ⊢
  cases found with
  | none => rfl
  | some arrives =>
      obtain ⟨begins, reaches⟩ := arrives
      exact denotes_of_reaches (room.begins begins) reaches

/-- The search finds the nearest root exactly when the steps of its start pass that root before
any other one. -/
theorem findsRoot_iff_station (room : start.HasRoom markRoom)
    (reaches : host.tree.Reaches host.current start place) :
    FindsRoot host start place ↔
      (host.tree.stations (start.origin host.current) start.steps).find? host.tree.isMarked =
        host.tree.nearestRoot? place := by
  have searched := detectRoot_eq_station room reaches
  have here := denotes_of_reaches room reaches
  obtain ⟨later, stations⟩ := reaches.stations_eq_cons
  rw [FindsRoot]
  constructor
  · intro finds
    cases nearest : host.tree.nearestRoot? place with
    | some root =>
        rw [nearest] at finds
        split at searched
        · rename_i found passed
          rw [passed, Denotes.unique searched finds]
        · rename_i passed
          -- nothing was found, so the start itself would have to denote a root
          rw [searched] at finds
          have marked := List.find?_some nearest
          rw [Denotes.unique finds here] at marked
          simp [stations, marked] at passed
    | none =>
        rw [nearest] at finds
        split at searched
        · rename_i found passed
          rw [finds] at searched
          have marked := List.find?_some passed
          rw [Denotes.unique searched here] at marked
          rw [FileTree.nearestRoot?, Place.upward_eq_cons, List.find?_cons_of_pos marked] at nearest
          simp at nearest
        · assumption
  · intro same
    rw [same] at searched
    exact searched

/-- Without steps that go up, the search passes over exactly the roots that lie above the place
from which its start is followed. -/
theorem station_eq_nearestRoot?_iff (descending : start.Descending)
    (reaches : host.tree.Reaches host.current start place) :
    (host.tree.stations (start.origin host.current) start.steps).find? host.tree.isMarked =
        host.tree.nearestRoot? place ↔
      ∀ root, host.tree.nearestRoot? place = some root →
        start.origin host.current <+: root := by
  have names := fun step member => (Path.steps_plain start step member).2
  have whole := FileTree.follow_of_descending names descending reaches.arrives
  rw [FileTree.nearestRoot?, whole, Place.upward_append, List.find?_append,
    FileTree.stations_of_descending names descending reaches.arrives]
  cases found : ((Place.upward start.steps).map (start.origin host.current ++ ·)).find?
      host.tree.isMarked with
  | some root =>
      have member := List.mem_of_find?_eq_some found
      rw [List.mem_map] at member
      obtain ⟨names, -, below⟩ := member
      simp [← below]
  | none =>
      rw [Option.none_or]
      constructor
      · intro nothing root above
        rw [← nothing] at above
        simp at above
      · intro below
        rw [eq_comm, Option.eq_none_iff_forall_not_mem]
        intro root above
        exact Place.not_prefix_of_mem_above (List.mem_of_find?_eq_some above) (below root above)

/-- Without steps that go up, the search never leads below the directory of its start. -/
theorem exists_denotes_detectRoot (room : start.HasRoom markRoom) (descending : start.Descending)
    (reaches : host.tree.Reaches host.current start place) :
    ∃ root, root <+: place ∧ host.Denotes (detectRoot host start) root := by
  have names := fun step member => (Path.steps_plain start step member).2
  have searched := detectRoot_eq_station room reaches
  split at searched
  · rename_i root passed
    have member := List.mem_of_find?_eq_some passed
    rw [FileTree.stations_of_descending names descending reaches.arrives, List.mem_map] at member
    obtain ⟨front, above, below⟩ := member
    refine ⟨root, ?_, searched⟩
    rw [← below, FileTree.follow_of_descending names descending reaches.arrives,
      List.prefix_append_right_inj]
    exact (Place.mem_upward_iff _ _).mp above
  · rw [searched]
    exact ⟨place, List.prefix_rfl, denotes_of_reaches room reaches⟩

/-- From a start that denotes a directory, the search finds the nearest root exactly when the steps
of the start pass it before any other marked directory. If no step goes up, that is when the
nearest root does not lie above the place from which the start is followed; an absolute start is
followed from the top. -/
theorem findsRoot_iff (host : Host) (start : Path) (place : Place)
    (resolved : host.tree.resolve host.current start = .ok place)
    (directory : host.tree.isDirectoryAt place = true)
    (short : Text.byteCount start.characters + markRoom < FileTree.pathLimit) :
    (FindsRoot host start place ↔
      (host.tree.stations (start.origin host.current) start.steps).find? host.tree.isMarked =
        host.tree.nearestRoot? place) ∧
      (start.Descending →
        (FindsRoot host start place ↔
          ∀ root, host.tree.nearestRoot? place = some root →
            start.origin host.current <+: root) ∧
        ∃ root, root <+: place ∧ host.Denotes (detectRoot host start) root) := by
  have room : start.HasRoom markRoom :=
    ⟨(FileTree.admitted_of_resolve resolved).zeroFree, short⟩
  have reaches := FileTree.reaches_of_resolve resolved directory
  have onWay := findsRoot_iff_station room reaches
  refine ⟨onWay, fun descending => ⟨?_, exists_denotes_detectRoot room descending reaches⟩⟩
  exact onWay.trans (station_eq_nearestRoot?_iff descending reaches)

/-- A search from the top finds the root around the directory below it. -/
theorem findsRoot_of_absolute_start :
    let host : Host := ⟨⟨[(["p".toList], .directory), (["p".toList, ".git".toList], .directory),
      (["p".toList, "a".toList], .directory)]⟩, [], fun _ => ⟨[], []⟩⟩
    let start := Path.ofString "/p/./a/"
    host.tree.resolve host.current start = .ok ["p".toList, "a".toList] ∧
      host.tree.nearestRoot? ["p".toList, "a".toList] = some ["p".toList] ∧
      FindsRoot host start ["p".toList, "a".toList] := by
  intro host start
  have resolved : host.tree.resolve host.current start = .ok ["p".toList, "a".toList] := by decide
  refine ⟨resolved, by decide, ?_⟩
  rw [((findsRoot_iff host start _ resolved (by decide) (by decide)).2 (by decide)).1]
  exact fun root _ => List.nil_prefix

/-- A step that goes up leads the search into a directory below its start, and a search from the
current directory does not see what lies above that. -/
theorem not_findsRoot_of_relative_start :
    (let host : Host := ⟨⟨[(["p".toList], .directory), (["p".toList, "a".toList], .directory),
        (["p".toList, "a".toList, "stylebridge.toml".toList], .file [] false)]⟩,
        ["p".toList], fun _ => ⟨[], []⟩⟩
      let start := Path.ofString "a/.."
      host.tree.resolve host.current start = .ok ["p".toList] ∧
        host.tree.nearestRoot? ["p".toList] = .none ∧
        detectRoot host start = Path.ofString "a" ∧ ¬ FindsRoot host start ["p".toList]) ∧
    (let host : Host := ⟨⟨[(["p".toList], .directory), ([".git".toList], .directory)]⟩,
        ["p".toList], fun _ => ⟨[], []⟩⟩
      let start := Path.ofString "."
      host.tree.resolve host.current start = .ok ["p".toList] ∧
        host.tree.nearestRoot? ["p".toList] = some [] ∧
        detectRoot host start = start ∧ ¬ FindsRoot host start ["p".toList]) := by
  constructor
  · intro host start
    have nothing : host.tree.nearestRoot? ["p".toList] = .none := by decide
    have found : detectRoot host start = Path.ofString "a" := by decide
    refine ⟨by decide, nothing, found, ?_⟩
    rw [FindsRoot, nothing, found]
    decide
  · intro host start
    have nearest : host.tree.nearestRoot? ["p".toList] = some [] := by decide
    have found : detectRoot host start = start := by decide
    refine ⟨by decide, nearest, found, ?_⟩
    rw [FindsRoot, nearest, found]
    intro denotes
    have here : host.tree.resolve host.current start = .ok ["p".toList] := by decide
    have other := here.symm.trans denotes.resolved
    rw [Except.ok.injEq] at other
    exact absurd other (by decide)

end Settings

end SheetLint
