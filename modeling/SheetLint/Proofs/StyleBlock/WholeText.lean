/-
This file says where in the whole text the line of a style block opens.
-/

import SheetLint.Proofs.StyleBlock.FirstLine
import SheetLint.Proofs.Text.FirstOccurrence
import SheetLint.Proofs.Text.Lines
import SheetLint.Proofs.Text.Runs

namespace SheetLint.StyleBlock

open Text

variable {marker : List Char}

/-- The search line by line finds the line on which the marker occurs first in the whole text. -/
theorem findIdx?_lines (single : '\n' ∉ marker) (text : List Char) :
    (lines text).findIdx? (occurs marker) =
      (splitAtFirst marker text).map fun parts => parts.1.count '\n' := by
  induction text with
  | nil =>
      by_cases nothing : marker = [] <;> simp [lines, cut, occurs, splitAtFirst, nothing]
  | cons character rest inductionHypothesis =>
      by_cases starts : marker <+: character :: rest
      · have here : occurs marker (firstLine (character :: rest)) = true := by
          rw [occurs_iff_isInfix]
          exact ((prefix_firstLine_iff single _).mpr starts).isInfix
        obtain ⟨after, equal⟩ := starts
        rw [lines_eq, List.findIdx?_cons, if_pos here, ← equal, splitAtFirst_append]
        rfl
      · rw [splitAtFirst_cons starts, Option.map_map]
        by_cases feed : character = '\n'
        · have filled : marker ≠ [] := fun nothing => starts (nothing ▸ List.nil_prefix)
          have absent : occurs marker [] = false := by simpa [occurs] using filled
          rw [feed, lines, cut_cons_separator (by rfl), List.findIdx?_cons, absent,
            ← lines, inductionHypothesis, Option.map_map]
          simp [Function.comp_def]
        · have absent : ¬ marker <+: character :: firstLine rest := by
            rwa [← firstLine_cons feed, prefix_firstLine_iff single]
          have same : occurs marker (character :: firstLine rest) =
              occurs marker (firstLine rest) := by
            rw [Bool.eq_iff_iff, occurs_iff_isInfix, occurs_iff_isInfix, List.infix_cons_iff,
              or_iff_right absent]
          rw [lines_eq, List.findIdx?_cons] at inductionHypothesis ⊢
          rw [firstLine_cons feed, laterLines?_cons feed, same, inductionHypothesis]
          simp [Function.comp_def, feed]

/-- Lines without the marker in front of a text add to the number of the line that is found. -/
theorem findIdx?_append_lines {rows : List (List Char)} (single : ∀ row ∈ rows, '\n' ∉ row)
    (absent : ∀ row ∈ rows, ¬ marker <:+: row) (text : List Char) :
    (lines (rows.flatMap (· ++ ['\n']) ++ text)).findIdx? (occurs marker) =
      ((lines text).findIdx? (occurs marker)).map (· + rows.length) := by
  induction rows with
  | nil => exact Option.map_id'.symm
  | cons row rows inductionHypothesis =>
      rw [List.forall_mem_cons] at single absent
      have none : occurs marker row = false := by
        rw [← Bool.not_eq_true, occurs_iff_isInfix]
        exact absent.1
      have cut : lines ((row :: rows).flatMap (· ++ ['\n']) ++ text) =
          row :: lines (rows.flatMap (· ++ ['\n']) ++ text) := by
        rw [lines, cut_eq_splitOn, lines, cut_eq_splitOn, List.flatMap_cons, List.append_assoc,
          List.append_assoc]
        exact List.splitOn_append_cons_self_of_not_mem single.1 _
      rw [cut, List.findIdx?_cons, none, inductionHypothesis single.2 absent.2, Option.map_map]
      simp only [Bool.false_eq_true, if_false, Function.comp_def, List.length_cons, Nat.add_assoc]

/-- The line of a marker without line feeds is that of its first occurrence in the whole text, and a
marker with a line feed is found nowhere. So lines without the marker in front of the text add to
the number of the line. -/
theorem firstMarkerLine_of_occurrence (text marker : String) :
    let found := firstMarkerLine text marker
    ('\n' ∉ marker.toList →
      (∀ number, found = some number ↔ ∃ before after,
        FirstOccurrence marker.toList text.toList before after ∧ before.count '\n' = number) ∧
      (found = none ↔ ¬ marker.toList <:+: text.toList) ∧
      ∀ (front : String) (rows : List (List Char)), front.toList = rows.flatMap (· ++ ['\n']) →
        (∀ row ∈ rows, '\n' ∉ row) → ¬ marker.toList <:+: front.toList →
          firstMarkerLine (front ++ text) marker = found.map (· + rows.length)) ∧
    firstMarkerLine text "" = some 0 ∧
    ('\n' ∈ marker.toList → found = none) := by
  intro found
  refine ⟨fun single => ⟨?_, ?_, ?_⟩, ?_, ?_⟩
  · intro number
    change firstMarkerLine text marker = _ ↔ _
    rw [firstMarkerLine_eq, findIdx?_lines single, Option.map_eq_some_iff]
    simp only [Prod.exists, splitAtFirst_eq_some_iff]
  · change firstMarkerLine text marker = _ ↔ _
    rw [firstMarkerLine_eq, findIdx?_lines single, Option.map_eq_none_iff,
      splitAtFirst_eq_none_iff]
  · intro front rows whole plain absent
    have missing : ∀ row ∈ rows, ¬ marker.toList <:+: row := by
      intro row member here
      have inside : row <:+: front.toList := by
        rw [whole, List.flatMap_def]
        exact (List.prefix_append row ['\n']).isInfix.trans
          (List.infix_of_mem_flatten (List.mem_map_of_mem member))
      exact absent (here.trans inside)
    change _ = (firstMarkerLine text marker).map _
    rw [firstMarkerLine_eq, firstMarkerLine_eq, String.toList_append, whole,
      findIdx?_append_lines plain missing]
  · rw [firstMarkerLine_eq, lines_eq, List.findIdx?_cons]
    cases firstLine text.toList <;> rfl
  · intro feed
    refine (firstMarkerLine_eq_none_iff text marker).mpr fun line member here => ?_
    rw [lines, cut_eq_splitOn] at member
    exact not_mem_of_mem_splitOn member (here.subset feed)

end SheetLint.StyleBlock
