/-
This file says which documents are refused before anything is started, and that nothing but the text
that is looked at, the marker and the policy has a part in that.
-/

import SheetLint.Proofs.Linter.Offset

namespace SheetLint

open SheetLint.StyleBlock

/-- The error is one of calling the linter: it was not started, or it did not write text. -/
inductive LintError.OfCall : LintError → Prop where
  | launch (program : String) (cause : OsError) : OfCall (.launch program cause)
  | notUtf8 (fault : Text.Utf8Fault) : OfCall (.notUtf8 fault)

theorem Invocation.ofCall_of_runText {invocation : Invocation} {host : Host} {input : Bytes}
    {error : LintError} (failed : invocation.runText host input = .error error) :
    error.OfCall := by
  rw [runText, bind_eq_error_iff] at failed
  rcases failed with unstarted | ⟨streams, -, unreadable⟩
  · obtain ⟨cause, -, rfl⟩ := mapError_eq_error_iff.mp unstarted
    exact .launch _ cause
  · rcases bind_eq_error_iff.mp unreadable with undecoded | ⟨characters, -, made⟩
    · obtain ⟨fault, -, rfl⟩ := mapError_eq_error_iff.mp undecoded
      exact .notUtf8 fault
    · cases made

/-- The text in which the style block of the document is looked for can be read, and the marker is
on none of its lines. -/
def Document.LacksBlock (document : Document) (host : Host) (marker : String) : Prop :=
  ∃ text, document.Scanned host text ∧ ∀ line ∈ Text.lines text.toList, ¬ marker.toList <:+: line

/-- The document was saved, and its file cannot be read for this cause. -/
def Document.Unreadable (document : Document) (host : Host) (cause : OsError) : Prop :=
  ∃ path, document.path = some path ∧ host.readText path = .error cause

namespace Configuration

variable {configuration : Configuration} {host : Host} {document : Document}

/-- A run on the document starts this process. -/
structure Launches (configuration : Configuration) (host : Host) (document : Document)
    (execution : Execution) : Prop where
  located : ∃ offset, configuration.blockOffset host document = .ok offset
  prepared : (configuration.invocation host document).prepare host document.text.toUTF8.toList =
    .ok execution

/-- The policy refuses the document for the lack of a style block. -/
structure Refuses (configuration : Configuration) (host : Host) (document : Document) : Prop where
  policy : configuration.missingBlock = .fail
  lacks : document.LacksBlock host configuration.styleMarker

/-- Two runs look for the same marker under the same policy in the same text, which is the file of a
saved document and the text of any other. -/
structure SameSearch (configuration other : Configuration) (host otherHost : Host)
    (document otherDocument : Document) : Prop where
  marker : other.styleMarker = configuration.styleMarker
  policy : other.missingBlock = configuration.missingBlock
  path : otherDocument.path = document.path
  saved : ∀ path, document.path = some path → otherHost.readText path = host.readText path
  unsaved : document.path = none → otherDocument.text = document.text

theorem blockOffset_of_sameSearch {other : Configuration} {otherHost : Host}
    {otherDocument : Document}
    (same : SameSearch configuration other host otherHost document otherDocument) :
    other.blockOffset otherHost otherDocument = configuration.blockOffset host document := by
  simp only [blockOffset, locateInFile, same.path, same.marker, same.policy]
  cases saved : document.path with
  | none => simp only [same.unsaved saved]
  | some path => simp only [same.saved path saved]

theorem resolveOffset_eq_error_iff {found : Option Nat} {policy : MissingPolicy} {path : Path}
    {marker : String} {error : LintError} :
    resolveOffset found policy path marker = .error error ↔
      (found = none ∧ policy = .fail) ∧ error = .missingStyleBlock path marker := by
  rw [resolveOffset]
  cases found with
  | some line => simp [offset?]
  | none => cases policy <;> simp [offset?, eq_comm]

theorem refuses_iff : configuration.Refuses host document ↔
    ∃ text, document.Scanned host text ∧ firstMarkerLine text configuration.styleMarker = none ∧
      configuration.missingBlock = .fail := by
  simp only [firstMarkerLine_eq_none_iff]
  constructor
  · rintro ⟨policy, text, scanned, absent⟩
    exact ⟨text, scanned, absent, policy⟩
  · rintro ⟨text, scanned, absent, policy⟩
    exact ⟨policy, text, scanned, absent⟩

/-- There is no offset for a document that cannot be read or that the policy refuses. -/
theorem blockOffset_eq_error_iff {error : LintError} :
    configuration.blockOffset host document = .error error ↔
      (∃ cause, document.Unreadable host cause ∧ error = .file cause) ∨
        configuration.Refuses host document ∧ error =
          .missingStyleBlock (document.path.getD unsavedPath) configuration.styleMarker := by
  obtain ⟨saved, text⟩ := document
  simp only [refuses_iff, Document.Unreadable, Document.Scanned]
  cases saved with
  | none => simp [blockOffset, resolveOffset_eq_error_iff]
  | some path =>
      simp only [blockOffset, bind_eq_error_iff, locateInFile, map_eq_error_iff, map_eq_ok_iff,
        mapError_eq_error_iff, mapError_eq_ok_iff, resolveOffset_eq_error_iff, Option.getD_some]
      constructor
      · rintro (⟨cause, unread, rfl⟩ | ⟨found, ⟨text, read, rfl⟩, lacks, rfl⟩)
        · exact .inl ⟨cause, ⟨path, rfl, unread⟩, rfl⟩
        · exact .inr ⟨⟨text, read, lacks⟩, rfl⟩
      · rintro (⟨cause, ⟨_, ⟨⟩, unread⟩, rfl⟩ | ⟨⟨text, read, lacks⟩, rfl⟩)
        · exact .inl ⟨cause, unread, rfl⟩
        · exact .inr ⟨_, ⟨text, read, rfl⟩, lacks, rfl⟩

/-- A run fails in the search for the style block or, behind that, in the call. -/
theorem runLinter_eq_error_iff {error : LintError} :
    configuration.runLinter host document = .error error ↔
      configuration.blockOffset host document = .error error ∨
        (∃ offset, configuration.blockOffset host document = .ok offset) ∧
          (configuration.invocation host document).runText host document.text.toUTF8.toList =
            .error error := by
  simp only [runLinter, bind_eq_error_iff, pure_ne_error, and_false, exists_false, or_false,
    exists_and_right]

theorem not_ofCall_of_blockOffset {error : LintError}
    (failed : configuration.blockOffset host document = .error error) : ¬ error.OfCall := by
  rcases blockOffset_eq_error_iff.mp failed with ⟨cause, -, rfl⟩ | ⟨-, rfl⟩ <;> exact nofun

/-- An error that is not one of calling the linter comes from the search before the call. -/
theorem runLinter_eq_error_iff_of_not_ofCall {error : LintError} (other : ¬ error.OfCall) :
    configuration.runLinter host document = .error error ↔
      (∃ cause, document.Unreadable host cause ∧ error = .file cause) ∨
        configuration.Refuses host document ∧ error =
          .missingStyleBlock (document.path.getD unsavedPath) configuration.styleMarker := by
  rw [runLinter_eq_error_iff, blockOffset_eq_error_iff, or_iff_left]
  rintro ⟨-, called⟩
  exact other (Invocation.ofCall_of_runText called)

/-- A run gets as far as the call when it has an offset. -/
theorem exists_blockOffset_iff :
    (∃ offset, configuration.blockOffset host document = .ok offset) ↔
      (∃ output, configuration.runLinter host document = .ok output) ∨
        ∃ error, error.OfCall ∧ configuration.runLinter host document = .error error := by
  constructor
  · rintro ⟨offset, located⟩
    cases ran : configuration.runLinter host document with
    | ok output => exact .inl ⟨output, rfl⟩
    | error error =>
        rcases runLinter_eq_error_iff.mp ran with unlocated | ⟨-, called⟩
        · rw [located] at unlocated
          cases unlocated
        · exact .inr ⟨error, Invocation.ofCall_of_runText called, rfl⟩
  · rintro (⟨output, ran⟩ | ⟨error, ofCall, failed⟩)
    · exact ⟨_, (runLinter_eq_ok_iff.mp ran).1⟩
    · rcases runLinter_eq_error_iff.mp failed with unlocated | ⟨located, -⟩
      · exact absurd ofCall (not_ofCall_of_blockOffset unlocated)
      · exact located

/-- A document that is refused or cannot be read has no offset. -/
theorem exists_blockOffset_error
    (stopped : configuration.Refuses host document ∨ ∃ cause, document.Unreadable host cause) :
    ∃ error, configuration.blockOffset host document = .error error := by
  rcases stopped with refused | ⟨cause, unread⟩
  · exact ⟨_, blockOffset_eq_error_iff.mpr (.inr ⟨refused, rfl⟩)⟩
  · exact ⟨_, blockOffset_eq_error_iff.mpr (.inl ⟨cause, unread, rfl⟩)⟩

/-- A run is refused for the lack of a style block exactly when the policy says so and the text that
is looked at has no line with the marker, and it fails with the cause for which the saved file
cannot be read. Then nothing is started, and every run that looks for the same in the same text ends
alike. Only a run that has found its offset succeeds or fails as a call does. -/
theorem runLinter_refused_iff (configuration : Configuration) (host : Host)
    (document : Document) :
    let result := configuration.runLinter host document
    (∀ path marker, result = .error (.missingStyleBlock path marker) ↔
      configuration.Refuses host document ∧ path = document.path.getD unsavedPath ∧
        marker = configuration.styleMarker) ∧
    (∀ cause, result = .error (.file cause) ↔ document.Unreadable host cause) ∧
    (configuration.Refuses host document ∨ (∃ cause, document.Unreadable host cause) →
      (∀ execution, ¬ configuration.Launches host document execution) ∧
      ∀ other otherHost otherDocument,
        SameSearch configuration other host otherHost document otherDocument →
          other.runLinter otherHost otherDocument = result ∧
            ∀ output, other.runLinter otherHost otherDocument ≠ .ok output) ∧
    ((∃ output, result = .ok output) ∨ (∃ error, error.OfCall ∧ result = .error error) ↔
      ∃ offset text, document.Scanned host text ∧
        OffsetIn text configuration.styleMarker configuration.missingBlock offset) := by
  intro result
  refine ⟨fun path marker => ?_, fun cause => ?_, fun stopped => ?_, ?_⟩
  · exact (runLinter_eq_error_iff_of_not_ofCall (by nofun)).trans (by simp)
  · exact (runLinter_eq_error_iff_of_not_ofCall (by nofun)).trans (by simp)
  · obtain ⟨error, unlocated⟩ := exists_blockOffset_error stopped
    constructor
    · rintro execution ⟨⟨offset, located⟩, -⟩
      rw [unlocated] at located
      cases located
    · intro other otherHost otherDocument same
      have here : result = .error error := runLinter_eq_error_iff.mpr (.inl unlocated)
      have there : other.runLinter otherHost otherDocument = .error error := by
        rw [← blockOffset_of_sameSearch same] at unlocated
        exact runLinter_eq_error_iff.mpr (.inl unlocated)
      rw [here, there]
      exact ⟨rfl, nofun⟩
  · rw [← exists_blockOffset_iff]
    exact exists_congr fun offset => blockOffset_eq_ok_iff

end Configuration

end SheetLint
