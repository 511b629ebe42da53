/-
This file takes the first two lines off a text.
-/

import Mathlib.Data.List.TakeWhile
import SheetLint.Text.Blank

namespace SheetLint.Text

/-- This is the text up to its first line feed. -/
def firstLine (text : List Char) : List Char :=
  text.takeWhile (· != '\n')

/-- This is the text behind its first line feed. -/
def laterLines? (text : List Char) : Option (List Char) :=
  match text.dropWhile (· != '\n') with
  | [] => none
  | _ :: rest => some rest

/-- This is the text between its first line feed and the second one or the end. -/
def secondLine? (text : List Char) : Option (List Char) :=
  (laterLines? text).map firstLine

/-- This is the text without what follows its second line. -/
def firstTwoLines (text : List Char) : List Char :=
  match secondLine? text with
  | none => firstLine text
  | some second => firstLine text ++ '\n' :: second

theorem firstLine_cons {character : Char} (other : character ≠ '\n') (rest : List Char) :
    firstLine (character :: rest) = character :: firstLine rest := by
  simp [firstLine, other]

theorem laterLines?_cons {character : Char} (other : character ≠ '\n') (rest : List Char) :
    laterLines? (character :: rest) = laterLines? rest := by
  simp [laterLines?, other]

/-- The lines of a text are its first line and the lines behind it. -/
theorem lines_eq (text : List Char) :
    lines text = firstLine text :: ((laterLines? text).map lines).getD [] := by
  induction text with
  | nil => rfl
  | cons character rest inductionHypothesis =>
      by_cases feed : character = '\n'
      · rw [feed, lines, cut_cons_separator (by rfl)]
        rfl
      · rw [firstLine_cons feed, laterLines?_cons feed, lines, cut, if_neg (by simpa using feed)]
        rw [lines] at inductionHypothesis
        rw [inductionHypothesis]

/-- A text without line feeds is its own first line. -/
theorem firstLine_eq_self {text : List Char} (single : ∀ character ∈ text, character ≠ '\n') :
    firstLine text = text := by
  rw [firstLine, List.takeWhile_eq_self_iff]
  intro character member
  simpa using single character member

theorem lineFeed_not_mem_firstLine (text : List Char) :
    ∀ character ∈ firstLine text, character ≠ '\n' := by
  intro character member
  simpa using List.mem_takeWhile_imp member

/-- A text and its first line start alike as far as there is no line feed. -/
theorem prefix_firstLine_iff {front : List Char} (single : '\n' ∉ front) (text : List Char) :
    front <+: firstLine text ↔ front <+: text := by
  constructor
  · intro starts
    exact starts.trans (List.takeWhile_prefix _)
  · rintro ⟨rest, equal⟩
    have passes : ∀ character ∈ front, (character != '\n') = true := by
      intro character member
      rw [bne_iff_ne]
      exact fun feed => single (feed ▸ member)
    rw [← equal, firstLine, List.takeWhile_append_of_pos passes]
    exact List.prefix_append _ _

/-- A line with a line feed behind it is the first one of the text. -/
theorem firstLine_append_lineFeed {line : List Char}
    (single : ∀ character ∈ line, character ≠ '\n') (rest : List Char) :
    firstLine (line ++ '\n' :: rest) = line ∧ laterLines? (line ++ '\n' :: rest) = some rest := by
  induction line with
  | nil => exact ⟨rfl, rfl⟩
  | cons character line inductionHypothesis =>
      have other : character ≠ '\n' := single character List.mem_cons_self
      obtain ⟨first, later⟩ := inductionHypothesis fun inner member =>
        single inner (List.mem_cons_of_mem _ member)
      rw [List.cons_append, firstLine_cons other, laterLines?_cons other, first, later]
      exact ⟨rfl, rfl⟩

/-- The first two lines do not change when what follows them is left out. -/
theorem lines_firstTwoLines (text : List Char) :
    firstLine (firstTwoLines text) = firstLine text ∧
      secondLine? (firstTwoLines text) = secondLine? text := by
  cases second : secondLine? text with
  | none =>
      have single := firstLine_eq_self (lineFeed_not_mem_firstLine text)
      have ends : laterLines? (firstLine text) = none := by
        rw [laterLines?, List.dropWhile_eq_nil_iff.mpr]
        intro character member
        simpa using lineFeed_not_mem_firstLine text character member
      rw [firstTwoLines, second]
      exact ⟨single, by rw [secondLine?, ends]; rfl⟩
  | some line =>
      obtain ⟨first, later⟩ :=
        firstLine_append_lineFeed (lineFeed_not_mem_firstLine text) line
      have member : ∃ rest, laterLines? text = some rest ∧ firstLine rest = line :=
        Option.map_eq_some_iff.mp second
      obtain ⟨rest, _, equal⟩ := member
      have single : firstLine line = line := by
        rw [← equal]
        exact firstLine_eq_self (lineFeed_not_mem_firstLine rest)
      rw [firstTwoLines, second]
      exact ⟨first, by rw [secondLine?, later, Option.map_some, single]⟩

end SheetLint.Text
