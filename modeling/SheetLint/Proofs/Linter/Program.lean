/-
This file says when the linter that is called is the installed one that the search upward finds. The
search looks from the current directory, the call from the directory in which the linter runs.
-/

import SheetLint.Linter
import SheetLint.Proofs.FileTree.Files
import SheetLint.Proofs.FileTree.Joining

namespace SheetLint

/-- These are the names on the way from a directory to the linter that is installed in it. -/
def installedNames : List (List Char) :=
  ["node_modules".toList, ".bin".toList, "stylelint".toList]

/-- This is the number of bytes that these names take up behind a path. -/
def installedRoom : Nat := 28

theorem entryName_nodeModules : EntryName "node_modules".toList :=
  ⟨by decide, by decide, by decide, by decide, by decide⟩

theorem entryName_bin : EntryName ".bin".toList :=
  ⟨by decide, by decide, by decide, by decide, by decide⟩

theorem entryName_standardExecutable : EntryName standardExecutable.toList :=
  ⟨by decide, by decide, by decide, by decide, by decide⟩

namespace FileTree

/-- This is the linter that is installed in a directory, if there is a file for it. -/
def linterIn? (tree : FileTree) (place : Place) : Option Place :=
  match tree.follow place installedNames with
  | .ok file => if tree.isFileAt file then some file else none
  | .error _ => none

variable {tree : FileTree} {current place : Place}

/-- The parent of the absolute path of a file leads to the directory that the file is in. -/
theorem exists_parent_of_file (current : Place) {path : Path} {file : Place}
    (top : path.isAbsolute = true) (arrives : tree.follow [] path.steps = .ok file)
    (other : tree.isDirectoryAt file = false) :
    ∃ parent, path.parent? = some parent ∧ ∃ place, tree.Reaches current parent place := by
  have somewhere : path.steps ≠ [] := by
    intro nowhere
    rw [nowhere, follow, Except.ok.injEq] at arrives
    simp [← arrives, isDirectoryAt, get?] at other
  cases above : path.parent? with
  | none => exact absurd (Path.steps_of_parent?_eq_none above) somewhere
  | some parent =>
      have less := Path.steps_of_parent? above
      obtain ⟨front, last, steps⟩ := (List.eq_nil_or_concat' path.steps).resolve_left somewhere
      rw [steps] at arrives
      rw [steps, List.dropLast_concat] at less
      obtain ⟨place, before, behind⟩ := exists_of_follow_append arrives
      refine ⟨parent, rfl, place, ?_, isDirectoryAt_of_follow (List.cons_ne_nil _ _) behind⟩
      rw [less, Path.origin, Path.isAbsolute_of_parent? above, top]
      exact before

theorem follow_of_linterIn? {file : Place} (installed : tree.linterIn? place = some file) :
    tree.follow place installedNames = .ok file := by
  rw [linterIn?] at installed
  cases arrived : tree.follow place installedNames with
  | error cause => simp [arrived] at installed
  | ok other =>
      simp only [arrived, Option.ite_none_right_eq_some, Option.some.injEq] at installed
      rw [installed.2]

/-- Where an installed linter is looked up, the directory is left by its names. -/
theorem resolve_installedLinter (tree : FileTree) (current : Place) {directory : Path}
    (room : directory.HasRoom installedRoom) :
    tree.resolve current directory.installedLinter =
      tree.follow (directory.origin current) (directory.steps ++ installedNames) := by
  have inModules : (directory.join ⟨"node_modules".toList⟩).HasRoom 15 :=
    Path.HasRoom.join entryName_nodeModules room
  have inBin : ((directory.join ⟨"node_modules".toList⟩).join ⟨".bin".toList⟩).HasRoom 10 :=
    Path.HasRoom.join entryName_bin inModules
  have relative {name : List Char} (fits : EntryName name) : Path.isAbsolute ⟨name⟩ = false :=
    Path.isAbsolute_of_name fits.slashFree
  have resolved := resolve_join tree current entryName_standardExecutable inBin
  rw [origin_join _ (relative entryName_bin), origin_join _ (relative entryName_nodeModules),
    Path.steps_join_name _ entryName_bin, Path.steps_join_name _ entryName_nodeModules,
    List.append_assoc, List.append_assoc] at resolved
  exact resolved

theorem isFile_installedLinter {directory : Path} (room : directory.HasRoom installedRoom)
    (reaches : tree.Reaches current directory place) :
    tree.isFile current directory.installedLinter = (tree.linterIn? place).isSome := by
  rw [isFile_eq, resolve_installedLinter tree current room, follow_append_of_ok reaches.arrives,
    linterIn?]
  cases tree.follow place installedNames with
  | error cause => rfl
  | ok file => cases file? : tree.isFileAt file <;> simp [file?]

end FileTree

/-- The linter of a directory is called by a name with a slash. -/
theorem Path.slash_mem_installedLinter (directory : Path) :
    '/' ∈ directory.installedLinter.characters := by
  have named : Path.isAbsolute ⟨standardExecutable.toList⟩ = false := by decide
  have behind := Path.getLast?_segments_join (directory.join ⟨"node_modules".toList⟩)
    entryName_bin.slashFree
  change '/' ∈ (((directory.join ⟨"node_modules".toList⟩).join ⟨".bin".toList⟩).join
    ⟨standardExecutable.toList⟩).characters
  rw [Path.join_of_relative named]
  -- the join adds a slash unless the text before it is empty or ends in one
  split
  · rename_i closed
    rw [Bool.or_eq_true, List.isEmpty_iff, beq_iff_eq] at closed
    rcases closed with nothing | slash
    · rw [Path.getLast?_segments, nothing] at behind
      exact absurd behind (by decide)
    · exact List.mem_append_left _ (List.mem_of_getLast? slash)
  · simp

/-- This is the installed linter of the first directory that has one. -/
def FileTree.firstLinter? (tree : FileTree) (directories : List Place) : Option Place :=
  (directories.find? fun place => (tree.linterIn? place).isSome).bind tree.linterIn?

namespace Configuration

variable {configuration : Configuration} {host : Host} {document : Document} {place : Place}

/-- These are the directories in which the search for an installed linter looks. -/
def searched (configuration : Configuration) (host : Host) (document : Document) : List Place :=
  let start := configuration.searchStart host document
  host.tree.stations (start.origin host.current) start.steps

/-- The call is for the installed linter that the search comes to first, wherever there is one, and
for the bare name of the linter otherwise. A name with a slash is a path as seen from the directory
in which the linter runs. -/
def SpawnsNearest (configuration : Configuration) (host : Host) (document : Document)
    (child : Place) : Prop :=
  let program := (configuration.invocation host document).program
  match host.tree.firstLinter? (configuration.searched host document) with
  | some file => '/' ∈ program.toList ∧ host.tree.resolve child ⟨program.toList⟩ = .ok file
  | none => program = standardExecutable

theorem program_eq (named : configuration.executable = standardExecutable) :
    (configuration.invocation host document).program =
      ((configuration.searchStart host document).firstUpward
          fun path => host.isFile path.installedLinter).elim standardExecutable
        fun path => path.installedLinter.toString := by
  change chooseProgram host configuration.executable _ = _
  rw [named, chooseProgram, if_pos rfl]
  cases (configuration.searchStart host document).firstUpward
    fun path => host.isFile path.installedLinter <;> rfl

/-- The program is the installed linter of a beginning of the path at which the search starts, or
the bare name. -/
theorem program_invocation (named : configuration.executable = standardExecutable)
    (room : (configuration.searchStart host document).HasRoom installedRoom)
    (reaches : host.tree.Reaches host.current (configuration.searchStart host document) place) :
    let program := (configuration.invocation host document).program
    match host.tree.firstLinter? (configuration.searched host document) with
    | some file => ∃ (path : Path) (directory : Place),
        path.Begins (configuration.searchStart host document) ∧
          host.tree.Reaches host.current path directory ∧
          host.tree.follow directory installedNames = .ok file ∧
          program.toList = path.installedLinter.characters
    | none => program = standardExecutable := by
  have judged : ∀ path place, path.Begins (configuration.searchStart host document) →
      host.tree.Reaches host.current path place →
        host.isFile path.installedLinter = (host.tree.linterIn? place).isSome :=
    fun path place begins reaches =>
      FileTree.isFile_installedLinter (room.begins begins) reaches
  have found := FileTree.firstUpward_stations judged
    (Path.Begins.refl (configuration.searchStart host document)) reaches
  dsimp only
  rw [program_eq named, FileTree.firstLinter?, searched]
  -- from here on only what was found counts, as a path and as a place
  generalize (configuration.searchStart host document).firstUpward _ = first at found ⊢
  cases station : (host.tree.stations ((configuration.searchStart host document).origin
      host.current) (configuration.searchStart host document).steps).find? _ with
  | none =>
      rw [station] at found
      cases found
      rfl
  | some directory =>
      rw [station] at found
      have some := List.find?_some (p := fun place => (host.tree.linterIn? place).isSome) station
      obtain ⟨file, installed⟩ := Option.isSome_iff_exists.mp some
      cases found with
      | some arrives =>
          rw [Option.bind_some, installed]
          exact ⟨_, directory, arrives.1, arrives.2, FileTree.follow_of_linterIn? installed,
            String.toList_ofList⟩

/-- The directory in which the linter runs is left by the same names as the current one. -/
theorem resolve_installedLinter_of_same {path : Path} {directory file child : Place}
    (room : path.HasRoom installedRoom) (reaches : host.tree.Reaches host.current path directory)
    (installed : host.tree.follow directory installedNames = .ok file)
    (same : path.isAbsolute = true ∨ child = host.current) :
    host.tree.resolve child path.installedLinter = .ok file := by
  have origin : path.origin child = path.origin host.current := by
    rcases same with absolute | same
    · simp [Path.origin, absolute]
    · rw [same]
  rw [host.tree.resolve_installedLinter child room, origin,
    FileTree.follow_append_of_ok reaches.arrives, installed]

/-- Names that do not go up lead from two directories to one file only if both are the same. -/
theorem same_of_resolve_installedLinter {path : Path} {directory file child : Place}
    (room : path.HasRoom installedRoom) (descending : path.Descending)
    (reaches : host.tree.Reaches host.current path directory)
    (installed : host.tree.follow directory installedNames = .ok file)
    (resolved : host.tree.resolve child path.installedLinter = .ok file) :
    path.isAbsolute = true ∨ child = host.current := by
  have names : ∀ step ∈ path.steps ++ installedNames, Path.isTrivial step = false := by
    intro step member
    rcases List.mem_append.mp member with own | behind
    · exact (Path.steps_plain path step own).2
    · have plain : ∀ step ∈ installedNames, Path.isTrivial step = false := by decide
      exact plain step behind
  have falling : ['.', '.'] ∉ path.steps ++ installedNames := by
    rw [List.mem_append, not_or]
    exact ⟨descending, by decide⟩
  rw [host.tree.resolve_installedLinter child room] at resolved
  have ours := (FileTree.follow_append_of_ok reaches.arrives).trans installed
  have whole := FileTree.follow_of_descending names falling ours
  rw [FileTree.follow_of_descending names falling resolved, List.append_cancel_right_eq] at whole
  cases absolute : path.isAbsolute with
  | true => exact .inl rfl
  | false =>
      right
      simpa [Path.origin, absolute] using whole

/-- A file that can be read is in a directory, to which the parent of its absolute path leads. -/
theorem exists_parent_of_readText {path : Path} {text : String}
    (here : host.tree.Reaches [] host.directory host.current)
    (read : host.readText path = .ok text) :
    ∃ parent, (Path.absolute host.directory path).parent? = some parent ∧
      ∃ place, host.tree.Reaches host.current parent place := by
  obtain ⟨file, arrives, other⟩ := FileTree.exists_of_readText read
  have top : (Path.absolute host.directory path).isAbsolute = true :=
    Path.isAbsolute_absolute rfl path
  have whole := (FileTree.follow_absolute here path).trans arrives
  exact FileTree.exists_parent_of_file host.current top whole other

/-- Where the linter runs makes no difference to the search for a saved document. -/
theorem searchStart_of_saved (configuration : Configuration) {path parent : Path}
    (saved : document.path = some path)
    (above : (Path.absolute host.directory path).parent? = some parent) :
    configuration.searchStart host document = parent := by
  rw [searchStart, documentName, saved, Option.map_some, Option.bind_some]
  exact congrArg (Option.getD · _) above

/-- A document that can be read stands in the directory where its search starts, and the path of
this directory is absolute. -/
theorem reaches_searchStart_of_saved {path : Path} {text : String}
    (here : host.tree.Reaches [] host.directory host.current)
    (saved : document.path = some path) (read : host.readText path = .ok text) :
    (configuration.searchStart host document).isAbsolute = true ∧
      ∃ place, host.tree.Reaches host.current (configuration.searchStart host document) place := by
  obtain ⟨parent, above, reaches⟩ := exists_parent_of_readText here read
  have top : (Path.absolute host.directory path).isAbsolute = true :=
    Path.isAbsolute_absolute rfl path
  rw [searchStart_of_saved configuration saved above]
  exact ⟨(Path.isAbsolute_of_parent? above).trans top, reaches⟩

/-- A document that was not saved is searched from where the linter runs. -/
theorem searchStart_of_unsaved (configuration : Configuration) (host : Host)
    (unsaved : document.path = none) :
    configuration.searchStart host document = configuration.directory host := by
  rw [searchStart, documentName, unsaved]
  rfl

theorem reaches_of_runDirectory {directory : Path} {child : Place}
    (runs : Invocation.runDirectory host directory = .ok child) :
    host.tree.Reaches host.current directory child := by
  rw [Invocation.runDirectory] at runs
  cases resolved : host.tree.resolve host.current directory with
  | error cause => simp [resolved] at runs
  | ok place =>
      simp only [resolved] at runs
      split at runs
      · rename_i stands
        rw [Except.ok.injEq] at runs
        rw [← runs]
        exact FileTree.reaches_of_resolve resolved stands
      · simp at runs

/-- The search starts at a directory wherever the linter can run at all. -/
theorem reaches_searchStart {child : Place}
    (here : host.tree.Reaches [] host.directory host.current)
    (readable : ∀ path, document.path = some path → ∃ text, host.readText path = .ok text)
    (runs : Invocation.runDirectory host (configuration.directory host) = .ok child) :
    ∃ place, host.tree.Reaches host.current (configuration.searchStart host document) place := by
  cases saved : document.path with
  | some path =>
      obtain ⟨text, read⟩ := readable path saved
      exact (reaches_searchStart_of_saved here saved read).2
  | none =>
      rw [searchStart_of_unsaved configuration host saved]
      exact ⟨child, reaches_of_runDirectory runs⟩

/-- The program is found wherever the directory in which the linter runs makes no difference to the
path of the program. If no step goes up, it is found only there. -/
theorem spawnsNearest_iff_same (child : Place)
    (named : configuration.executable = standardExecutable)
    (room : (configuration.searchStart host document).HasRoom installedRoom)
    (reaches : host.tree.Reaches host.current (configuration.searchStart host document) place) :
    let start := configuration.searchStart host document
    let first := host.tree.firstLinter? (configuration.searched host document)
    let same := first = none ∨ start.isAbsolute = true ∨ child = host.current
    (same → SpawnsNearest configuration host document child) ∧
      (start.Descending → SpawnsNearest configuration host document child → same) := by
  have chosen := program_invocation named room reaches
  dsimp only
  rw [SpawnsNearest]
  dsimp only at chosen ⊢
  cases first : host.tree.firstLinter? (configuration.searched host document) with
  | none =>
      rw [first] at chosen
      exact ⟨fun _ => chosen, fun _ _ => .inl rfl⟩
  | some file =>
      rw [first] at chosen
      obtain ⟨path, directory, begins, arrives, installed, program⟩ := chosen
      have enough := room.begins begins
      simp only [program, reduceCtorEq, false_or, ← begins.root]
      constructor
      · intro same
        exact ⟨path.slash_mem_installedLinter,
          resolve_installedLinter_of_same enough arrives installed same⟩
      · intro descending spawns
        have falling : path.Descending := fun up => descending (begins.steps.subset up)
        exact same_of_resolve_installedLinter enough falling arrives installed spawns.2

/-- For a saved document, without a working directory, and with an absolute one, the search starts
from an absolute path. -/
theorem isAbsolute_searchStart (here : host.tree.Reaches [] host.directory host.current)
    (readable : ∀ path, document.path = some path → ∃ text, host.readText path = .ok text)
    (settled : document.path ≠ none ∨
      ∀ directory, configuration.workingDirectory = some directory →
        directory.isAbsolute = true) :
    (configuration.searchStart host document).isAbsolute = true := by
  cases saved : document.path with
  | some path =>
      obtain ⟨text, read⟩ := readable path saved
      exact (reaches_searchStart_of_saved here saved read).1
  | none =>
      rw [searchStart_of_unsaved configuration host saved, directory]
      cases set : configuration.workingDirectory with
      | none => rfl
      | some directory => exact settled.resolve_left (· saved) directory set

/-- An absolute path that does not go up is searched through all directories above its own. -/
theorem searched_eq_upward (top : (configuration.searchStart host document).isAbsolute = true)
    (descending : (configuration.searchStart host document).Descending)
    (reaches : host.tree.Reaches host.current (configuration.searchStart host document) place) :
    configuration.searched host document = place.upward := by
  have names := fun step member =>
    (Path.steps_plain (configuration.searchStart host document) step member).2
  have origin : (configuration.searchStart host document).origin host.current = [] := by
    rw [Path.origin, if_pos top]
  have whole := FileTree.follow_of_descending names descending reaches.arrives
  rw [searched, FileTree.stations_of_descending names descending reaches.arrives, whole, origin]
  simp

/-- Wherever the linter can run, its program is the nearest installed one, or the bare name, if the
document was saved, if no working directory is given, or if that is absolute. For a document in
memory and a relative working directory, a program that was found is found again only where the
linter runs in the current directory. -/
theorem spawnsNearest_iff (configuration : Configuration) (host : Host) (document : Document)
    (child : Place) (named : configuration.executable = standardExecutable)
    (here : host.tree.Reaches [] host.directory host.current)
    (readable : ∀ path, document.path = some path → ∃ text, host.readText path = .ok text)
    (runs : Invocation.runDirectory host (configuration.directory host) = .ok child)
    (room : (configuration.searchStart host document).HasRoom installedRoom) :
    let start := configuration.searchStart host document
    let searched := configuration.searched host document
    (document.path ≠ none ∨ (∀ directory, configuration.workingDirectory = some directory →
        directory.isAbsolute = true) ∨ child = host.current →
      SpawnsNearest configuration host document child) ∧
    (start.Descending →
      (SpawnsNearest configuration host document child ↔
        host.tree.firstLinter? searched = none ∨ start.isAbsolute = true ∨
          child = host.current)) ∧
    (start.Descending → start.isAbsolute = true →
      ∃ place, host.tree.Reaches host.current start place ∧ searched = place.upward) := by
  obtain ⟨place, reaches⟩ := reaches_searchStart here readable runs
  have same := spawnsNearest_iff_same child named room reaches
  refine ⟨fun settled => same.1 (.inr ?_), fun descending => ⟨same.2 descending, same.1⟩,
    fun descending top => ⟨place, reaches, searched_eq_upward top descending reaches⟩⟩
  rw [← or_assoc] at settled
  exact settled.imp_left (isAbsolute_searchStart here readable)

/-- A document in memory is linted by the program that its working directory stands under. -/
theorem spawnsNearest_of_absolute_directory :
    let bin := ["p", "node_modules", ".bin"].map String.toList
    let host : Host := ⟨⟨[(["p".toList], .directory),
        (["p".toList, "node_modules".toList], .directory), (bin, .directory),
        (bin ++ ["stylelint".toList], .file [] true), (["p".toList, "web".toList], .directory)]⟩,
      [], fun _ => ⟨[], []⟩⟩
    let configuration : Configuration :=
      { Configuration.standard with workingDirectory := some (Path.ofString "/p/web") }
    let document := Document.inMemory ""
    host.tree.firstLinter? (configuration.searched host document) =
        some (bin ++ ["stylelint".toList]) ∧
      SpawnsNearest configuration host document ["p".toList, "web".toList] := by
  intro bin host configuration document
  refine ⟨by decide, ?_⟩
  have unsaved : ∀ path, document.path = some path → ∃ text, host.readText path = .ok text :=
    fun _ saved => nomatch saved
  have settled : ∀ directory, configuration.workingDirectory = some directory →
      directory.isAbsolute = true := by
    intro directory set
    rw [← Option.some.inj set]
    rfl
  exact (spawnsNearest_iff configuration host document _ rfl ⟨rfl, rfl⟩ unsaved (by decide)
    ⟨by decide, by decide⟩).1 (.inr (.inl settled))

/-- With a relative working directory, a document in memory is not linted at all: the program that
is found from the current directory is called from the working directory. -/
theorem not_spawnsNearest_of_relative_directory :
    let bin := ["web", "node_modules", ".bin"].map String.toList
    let host : Host := ⟨⟨[(["web".toList], .directory),
        (["web".toList, "node_modules".toList], .directory), (bin, .directory),
        (bin ++ ["stylelint".toList], .file [] true)]⟩, [], fun _ => ⟨[], []⟩⟩
    let configuration : Configuration :=
      { Configuration.standard with workingDirectory := some (Path.ofString "web") }
    let document := Document.inMemory ""
    host.tree.firstLinter? (configuration.searched host document) =
        some (bin ++ ["stylelint".toList]) ∧
      ¬ SpawnsNearest configuration host document ["web".toList] ∧
      configuration.runLinter host document =
        .error (.launch "web/node_modules/.bin/stylelint" .notFound) := by
  intro bin host configuration document
  have found : host.tree.firstLinter? (configuration.searched host document) =
      some (bin ++ ["stylelint".toList]) := by decide
  refine ⟨found, ?_, by decide⟩
  rw [SpawnsNearest, found]
  decide

end Configuration

end SheetLint
