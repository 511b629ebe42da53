/-
This file shows how a configuration is layered: a value of the command line lies over one of the
settings file, and that over the standard. The first settings file in the root counts or fails as a
whole; nothing else in the file tree has a part in the result.
-/

import Mathlib.Data.Option.Basic
import SheetLint.Configuration

namespace SheetLint

namespace Settings

/-- These are the files in a root that may hold its settings, in the order of preference. -/
def candidates (root : Path) : List (Path × Format) :=
  [(root.join (Path.ofString "stylebridge.toml"), .toml),
    (root.join (Path.ofString "stylebridge.yaml"), .yaml),
    (root.join (Path.ofString "stylebridge.yml"), .yaml)]

/-- This is the first of the candidates that exists. -/
def firstFile? (host : Host) (root : Path) : Option (Path × Format) :=
  (candidates root).find? fun file => host.pathExists file.1

theorem loadAmong_eq (host : Host) (root : Path) (names : List (String × Format)) :
    loadAmong host root names =
      match (names.map fun name => (root.join (Path.ofString name.1), name.2)).find?
          fun file => host.pathExists file.1 with
      | some (path, format) => (readFile host path format).map some
      | .none => .ok .none := by
  induction names with
  | nil => rfl
  | cons name names inductionHypothesis =>
      rw [loadAmong, List.map_cons, List.find?_cons]
      cases host.pathExists (root.join (Path.ofString name.1)) with
      | true => rfl
      | false => simpa using inductionHypothesis

/-- Loading reads the first file that exists and no other one. -/
theorem load_eq (host : Host) (root : Path) :
    load host root =
      match firstFile? host root with
      | some (path, format) => (readFile host path format).map some
      | .none => .ok .none :=
  loadAmong_eq host root fileNames

theorem readFile_eq (host : Host) (path : Path) (format : Format) :
    readFile host path format =
      match host.readText path with
      | .error cause => .error (.file cause)
      | .ok text =>
          match format.read text with
          | .error defect => .error (.settings path defect)
          | .ok settings => .ok settings := by
  rw [readFile]
  cases host.readText path with
  | error cause => rfl
  | ok text =>
      cases read : format.read text <;> simp [read, Except.mapError, bind, Except.bind]

/-- Settings are loaded exactly when there is a file for them. -/
theorem isSome_of_load {host : Host} {root : Path} {found : Option Settings}
    (loaded : load host root = .ok found) :
    found.isSome = (firstFile? host root).isSome := by
  rw [load_eq] at loaded
  cases first : firstFile? host root with
  | none =>
      rw [first, Except.ok.injEq] at loaded
      rw [← loaded]
      rfl
  | some file =>
      simp only [first] at loaded
      cases read : readFile host file.1 file.2 with
      | error cause => simp [read, Except.map] at loaded
      | ok settings =>
          rw [read, Except.map, Except.ok.injEq] at loaded
          rw [← loaded]
          rfl

/-- Loading depends on which file comes first and on what is in it. -/
theorem load_congr {host other : Host} {root : Path}
    (files : firstFile? other root = firstFile? host root)
    (contents : ∀ path format, firstFile? host root = some (path, format) →
      other.readText path = host.readText path) :
    load other root = load host root := by
  rw [load_eq, load_eq, files]
  cases first : firstFile? host root with
  | none => rfl
  | some file => simp only [readFile_eq, contents file.1 file.2 first]

end Settings

namespace Configuration

/-- This is the configuration whose values come from the command line where it gives them, else
from the settings, else from the standard. Only the working directory of the settings lies under
the root. -/
def layered (root : Path) (found : Option Settings) (overrides : Overrides) : Configuration :=
  let settings := found.getD Settings.none
  { root
    settingsFound := found.isSome
    executable := (overrides.executable.or settings.executable).getD "stylelint"
    arguments := settings.arguments.getD []
    selector := settings.selector.getD Selector.standard
    output := (overrides.output.or settings.output).getD "human"
    workingDirectory := (overrides.workingDirectory.map Path.ofString).or
      (settings.workingDirectory.map fun directory => root.join (Path.ofString directory))
    styleMarker := settings.styleMarker.getD "<style"
    missingBlock := settings.missingBlock.getD .zero
    environment := settings.environment.getD [] }

theorem override_ofSettings (root : Path) (settings : Settings) (overrides : Overrides) :
    (ofSettings root settings).override overrides = layered root (some settings) overrides := by
  rcases overrides with ⟨_, executable, _, output⟩
  cases executable <;> cases output <;> rfl

theorem override_standard (root : Path) (overrides : Overrides) :
    override { standard with root } overrides = layered root none overrides := by
  rcases overrides with ⟨_, executable, _, output⟩
  cases executable <;> cases output <;> rfl

/-- A resolution fails with the settings file or layers what the file says. -/
theorem resolve_eq (host : Host) (overrides : Overrides) :
    resolve host overrides =
      (Settings.load host (Settings.detectRoot host (startOf overrides))).map fun found =>
        layered (Settings.detectRoot host (startOf overrides)) found overrides := by
  rw [resolve]
  cases Settings.load host (Settings.detectRoot host (startOf overrides)) with
  | error cause => rfl
  | ok found =>
      cases found with
      | none => exact congrArg Except.ok (override_standard _ overrides)
      | some settings => exact congrArg Except.ok (override_ofSettings _ settings overrides)

/-- What a resolution gives hangs on the root and on the first settings file in it. Where that file
cannot be read or holds no settings, it is an error under all overrides; otherwise every value
comes from its own uppermost layer, and settings count as found exactly when a file of theirs
exists in the root. Another host with the same root and the same content in the same first file
gives the same result. -/
theorem resolve_layered (host : Host) (overrides : Overrides) :
    let root := Settings.detectRoot host (startOf overrides)
    (match Settings.firstFile? host root with
      | none => resolve host overrides = .ok (layered root none overrides)
      | some (path, format) =>
          match host.readText path with
          | .error cause => resolve host overrides = .error (.file cause)
          | .ok text =>
              match format.read text with
              | .error defect => resolve host overrides = .error (.settings path defect)
              | .ok settings =>
                  resolve host overrides = .ok (layered root (some settings) overrides)) ∧
      (∀ configuration, resolve host overrides = .ok configuration →
        (configuration.settingsFound = true ↔
          ∃ file ∈ Settings.candidates configuration.root, host.pathExists file.1 = true)) ∧
      (∀ other : Host, Settings.detectRoot other (startOf overrides) = root →
        Settings.firstFile? other root = Settings.firstFile? host root →
        (∀ path format, Settings.firstFile? host root = some (path, format) →
          other.readText path = host.readText path) →
        resolve other overrides = resolve host overrides) := by
  intro root
  refine ⟨?_, ?_, ?_⟩
  · rw [resolve_eq, Settings.load_eq]
    cases Settings.firstFile? host root with
    | none => rfl
    | some file =>
        simp only [Settings.readFile_eq]
        cases host.readText file.1 with
        | error cause => rfl
        | ok text =>
            cases read : file.2.read text <;> simp [read, Except.map, root]
  · intro configuration resolved
    rw [resolve_eq] at resolved
    cases loaded : Settings.load host root with
    | error cause => simp [root, loaded, Except.map] at resolved
    | ok found =>
        rw [loaded, Except.map, Except.ok.injEq] at resolved
        have some := Settings.isSome_of_load loaded
        rw [← resolved]
        change found.isSome = true ↔ ∃ file ∈ Settings.candidates root, _
        rw [some, Settings.firstFile?, List.find?_isSome]
  · intro other sameRoot files contents
    rw [resolve_eq, resolve_eq, sameRoot, Settings.load_congr files contents]

end Configuration

end SheetLint
