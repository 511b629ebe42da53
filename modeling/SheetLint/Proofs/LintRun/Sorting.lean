/-
This file shows what the sorting of paths keeps: which components there are in the end, and in
which order, depends only on the components that were there before.
-/

import Mathlib.Data.List.Induction
import Mathlib.Data.List.Forall2
import SheetLint.LintRun
import SheetLint.Proofs.Path.Order

namespace SheetLint.LintRun

/-- These paths stand in their order, and no two of them have the same components. -/
def Sorted (paths : List Path) : Prop :=
  (paths.map Path.components).Pairwise Path.Before

theorem mem_insertPath {path other : Path} {paths : List Path}
    (member : other ∈ insertPath path paths) : other = path ∨ other ∈ paths := by
  induction paths with
  | nil => exact .inl (List.mem_singleton.mp member)
  | cons first others inductionHypothesis =>
      rw [insertPath] at member
      split at member
      · exact List.mem_cons.mp member
      · exact .inr member
      · rcases List.mem_cons.mp member with here | later
        · exact .inr (here ▸ List.mem_cons_self)
        · exact (inductionHypothesis later).imp_right (List.mem_cons_of_mem _)

/-- An inserted path adds its components, unless they are there. -/
theorem mem_map_insertPath (path : Path) (paths : List Path) (components : List Path.Component) :
    components ∈ (insertPath path paths).map Path.components ↔
      components = path.components ∨ components ∈ paths.map Path.components := by
  induction paths with
  | nil => simp [insertPath]
  | cons first others inductionHypothesis =>
      rw [insertPath]
      split
      · rw [List.map_cons, List.mem_cons]
      · rename_i equal
        rw [(Path.compare_eq_iff path first).mp equal, List.map_cons, List.mem_cons, ← or_assoc,
          or_self]
      · rw [List.map_cons, List.mem_cons, inductionHypothesis, List.map_cons, List.mem_cons,
          or_left_comm]

theorem sorted_insertPath (path : Path) {paths : List Path} (sorted : Sorted paths) :
    Sorted (insertPath path paths) := by
  induction paths with
  | nil => exact List.pairwise_singleton _ _
  | cons first others inductionHypothesis =>
      rw [Sorted, List.map_cons, List.pairwise_cons] at sorted
      obtain ⟨least, rest⟩ := sorted
      rw [insertPath]
      split
      · rename_i before
        rw [Sorted, List.map_cons, List.map_cons, List.pairwise_cons, List.pairwise_cons]
        refine ⟨?_, least, rest⟩
        intro components member
        rcases List.mem_cons.mp member with here | later
        · exact here ▸ before
        · exact Path.Before.trans before (least components later)
      · exact List.pairwise_cons.mpr ⟨least, rest⟩
      · rename_i after
        have before : Path.Before first.components path.components :=
          Std.OrientedCmp.gt_iff_lt.mp after
        refine List.pairwise_cons.mpr ⟨?_, inductionHypothesis rest⟩
        intro components member
        rcases (mem_map_insertPath path others components).mp member with new | old
        · exact new ▸ before
        · exact least components old

/-- The paths that are there already keep their spelling and their order. -/
theorem sublist_insertPath (path : Path) (paths : List Path) :
    paths.Sublist (insertPath path paths) := by
  induction paths with
  | nil => exact List.nil_sublist _
  | cons first others inductionHypothesis =>
      rw [insertPath]
      split
      · exact List.sublist_cons_self _ _
      · exact List.Sublist.refl _
      · exact inductionHypothesis.cons_cons first

theorem sortPaths_concat (paths : List Path) (path : Path) :
    sortPaths (paths ++ [path]) = insertPath path (sortPaths paths) := by
  rw [sortPaths, List.foldl_append]
  rfl

theorem sorted_sortPaths (paths : List Path) : Sorted (sortPaths paths) := by
  induction paths using List.reverseRecOn with
  | nil => exact List.Pairwise.nil
  | append_singleton paths path inductionHypothesis =>
      rw [sortPaths_concat]
      exact sorted_insertPath path inductionHypothesis

theorem sublist_sortPaths_append (paths more : List Path) :
    (sortPaths paths).Sublist (sortPaths (paths ++ more)) := by
  induction more using List.reverseRecOn with
  | nil => rw [List.append_nil]
  | append_singleton more path inductionHypothesis =>
      rw [← List.append_assoc, sortPaths_concat]
      exact inductionHypothesis.trans (sublist_insertPath path _)

theorem mem_of_mem_sortPaths {paths : List Path} {path : Path} (member : path ∈ sortPaths paths) :
    path ∈ paths := by
  induction paths using List.reverseRecOn with
  | nil => exact member
  | append_singleton paths last inductionHypothesis =>
      rw [sortPaths_concat] at member
      rw [List.mem_append, List.mem_singleton]
      exact (mem_insertPath member).symm.imp_left inductionHypothesis

theorem mem_map_sortPaths (paths : List Path) (components : List Path.Component) :
    components ∈ (sortPaths paths).map Path.components ↔
      components ∈ paths.map Path.components := by
  induction paths using List.reverseRecOn with
  | nil => rfl
  | append_singleton paths path inductionHypothesis =>
      rw [sortPaths_concat, mem_map_insertPath, inductionHypothesis, List.map_append,
        List.mem_append, List.map_singleton, List.mem_singleton, or_comm]

/-- Sorting lists with the same paths gives paths with the same components, place by place. -/
theorem forall₂_sortPaths {paths others : List Path}
    (same : ∀ path, path ∈ paths ↔ path ∈ others) :
    List.Forall₂ (fun path other => path.components = other.components)
      (sortPaths paths) (sortPaths others) := by
  have equal : (sortPaths paths).map Path.components = (sortPaths others).map Path.components := by
    apply List.Pairwise.eq_of_mem_iff (sorted_sortPaths paths) (sorted_sortPaths others)
    intro components
    rw [mem_map_sortPaths, mem_map_sortPaths, List.mem_map, List.mem_map]
    exact exists_congr fun path => and_congr_left' (same path)
  rw [← List.forall₂_eq_eq_eq, List.forall₂_map_left_iff, List.forall₂_map_right_iff] at equal
  exact equal

end SheetLint.LintRun
