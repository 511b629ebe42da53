/-
This file compares the way up through the parents of a path with the places that its steps pass.
Where no step goes up itself, these are the places above the one that the path leads to.
-/

import Mathlib.Data.List.Infix
import SheetLint.Proofs.FileTree.Following
import SheetLint.Proofs.Path.Parents

namespace SheetLint

namespace Place

/-- These are a place and all places above it, the nearest first. -/
def upward (place : Place) : List Place :=
  place.inits.reverse

theorem mem_upward_iff (place other : Place) : other ∈ place.upward ↔ other <+: place := by
  rw [upward, List.mem_reverse, List.mem_inits]

@[simp] theorem upward_nil : upward [] = [[]] :=
  rfl

@[simp] theorem upward_concat (place : Place) (name : List Char) :
    upward (place ++ [name]) = (place ++ [name]) :: upward place := by
  simp [upward, List.inits_append]

/-- These are the places above a place, without itself. -/
def above (place : Place) : List Place :=
  place.upward.tail

theorem upward_eq_cons (place : Place) : place.upward = place :: place.above := by
  induction place using List.reverseRecOn with
  | nil => rfl
  | append_singleton place name _ =>
      rw [above, upward_concat]
      rfl

theorem not_prefix_of_mem_above {place other : Place} (member : other ∈ place.above) :
    ¬ place <+: other := by
  induction place using List.reverseRecOn with
  | nil => simp [above] at member
  | append_singleton place name _ =>
      rw [above, upward_concat, List.tail_cons, mem_upward_iff] at member
      intro below
      have shorter := member.length_le
      have longer := below.length_le
      rw [List.length_append, List.length_singleton] at longer
      omega

/-- Above names under a place come the places in between and then those above the place. -/
theorem upward_append (place names : Place) :
    upward (place ++ names) = (upward names).map (place ++ ·) ++ place.above := by
  induction names using List.reverseRecOn with
  | nil =>
      rw [List.append_nil, upward_nil, List.map_singleton, List.append_nil]
      exact upward_eq_cons place
  | append_singleton names name inductionHypothesis =>
      rw [← List.append_assoc, upward_concat, upward_concat, inductionHypothesis,
        List.map_cons, List.cons_append, List.append_assoc]

end Place

/-- No step of the path goes up. -/
def Path.Descending (path : Path) : Prop :=
  ['.', '.'] ∉ path.steps

instance (path : Path) : Decidable path.Descending :=
  inferInstanceAs (Decidable (_ ∉ _))

namespace FileTree

variable {tree : FileTree} {current place target : Place}

/-- These are the places that some steps pass, the last one first. -/
def stations (tree : FileTree) (place : Place) (steps : List (List Char)) : List Place :=
  steps.inits.reverse.filterMap fun done => (tree.follow place done).toOption

@[simp] theorem stations_nil (tree : FileTree) (place : Place) :
    tree.stations place [] = [place] :=
  rfl

theorem stations_concat {steps : List (List Char)} {last : List Char}
    (arrives : tree.follow place (steps ++ [last]) = .ok target) :
    tree.stations place (steps ++ [last]) = target :: tree.stations place steps := by
  simp [stations, List.inits_append, arrives, Except.toOption]

/-- Steps that do not go up write the names of the place that they lead to. -/
theorem follow_of_descending {steps : List (List Char)}
    (names : ∀ step ∈ steps, Path.isTrivial step = false) (descending : ['.', '.'] ∉ steps)
    (arrives : tree.follow place steps = .ok target) : target = place ++ steps := by
  induction steps generalizing place with
  | nil => simpa [follow] using arrives.symm
  | cons step steps inductionHypothesis =>
      rw [List.forall_mem_cons] at names
      rw [List.mem_cons, not_or] at descending
      rw [follow] at arrives
      cases stepped : tree.step place step with
      | error cause => simp [stepped] at arrives
      | ok further =>
          have inside : further = place ++ [step] := by
            rw [FileTree.step] at stepped
            simp only [names.1, Bool.false_eq_true, if_false, beq_iff_eq,
              Ne.symm descending.1] at stepped
            split at stepped
            · simp at stepped
            · split at stepped
              · simp at stepped
              · split at stepped
                · exact (Except.ok.inj stepped).symm
                · simp at stepped
          simp only [stepped] at arrives
          rw [inductionHypothesis names.2 descending.2 arrives, inside, List.append_assoc]
          rfl

/-- Steps that do not go up pass the places between their start and their end. -/
theorem stations_of_descending {steps : List (List Char)}
    (names : ∀ step ∈ steps, Path.isTrivial step = false) (descending : ['.', '.'] ∉ steps)
    (arrives : tree.follow place steps = .ok target) :
    tree.stations place steps = (Place.upward steps).map (place ++ ·) := by
  induction steps using List.reverseRecOn generalizing target with
  | nil => simp
  | append_singleton steps last inductionHypothesis =>
      obtain ⟨further, before, -⟩ := exists_of_follow_append arrives
      have rest := inductionHypothesis
        (fun step member => names step (List.mem_append_left _ member))
        (fun member => descending (List.mem_append_left _ member)) before
      rw [stations_concat arrives, rest, follow_of_descending names descending arrives,
        Place.upward_concat, List.map_cons]

/-- Going to the parent of a path is going back by one station, or staying where it is. -/
theorem Reaches.parent {path parent : Path} (reaches : tree.Reaches current path place)
    (above : path.parent? = some parent) :
    ∃ place', tree.Reaches current parent place' ∧
      (tree.stations (path.origin current) path.steps =
          place :: tree.stations (parent.origin current) parent.steps ∨
        place' = place ∧ tree.stations (path.origin current) path.steps =
          tree.stations (parent.origin current) parent.steps) := by
  have origin : parent.origin current = path.origin current := by
    rw [Path.origin, Path.origin, Path.isAbsolute_of_parent? above]
  have less := Path.steps_of_parent? above
  have arrives := reaches.arrives
  rcases List.eq_nil_or_concat' path.steps with nowhere | ⟨front, last, steps⟩
  · rw [nowhere] at less arrives
    refine ⟨place, ⟨?_, reaches.directory⟩, .inr ⟨rfl, ?_⟩⟩
    · rw [origin, less]
      exact arrives
    · rw [origin, less, nowhere]
      rfl
  · rw [steps, List.dropLast_concat] at less
    rw [steps] at arrives
    obtain ⟨further, before, behind⟩ := exists_of_follow_append arrives
    refine ⟨further, ⟨?_, isDirectoryAt_of_follow (List.cons_ne_nil _ _) behind⟩, .inl ?_⟩
    · rw [origin, less]
      exact before
    · rw [origin, less, steps]
      exact stations_concat arrives

theorem Reaches.stations_eq_cons {path : Path} (reaches : tree.Reaches current path place) :
    ∃ stations, tree.stations (path.origin current) path.steps = place :: stations := by
  have arrives := reaches.arrives
  rcases List.eq_nil_or_concat' path.steps with nowhere | ⟨front, last, steps⟩
  · rw [nowhere, follow, Except.ok.injEq] at arrives
    exact ⟨[], by rw [nowhere, stations_nil, arrives]⟩
  · rw [steps] at arrives ⊢
    exact ⟨_, stations_concat arrives⟩

/-- The search upward from a path finds the first station that passes, if the test of paths tells
no more than where they lead to. -/
theorem firstUpward_stations {whole : Path} {passes : Path → Bool} {holds : Place → Bool}
    (judged : ∀ path place, path.Begins whole → tree.Reaches current path place →
      passes path = holds place)
    {start : Path} (begins : start.Begins whole) (reaches : tree.Reaches current start place) :
    Option.Rel (fun path found => path.Begins whole ∧ tree.Reaches current path found)
      (start.firstUpward passes)
      ((tree.stations (start.origin current) start.steps).find? holds) := by
  induction start using Path.parent_induction generalizing place with
  | climb start inductionHypothesis =>
      have here := judged start place begins reaches
      obtain ⟨later, stations⟩ := reaches.stations_eq_cons
      rw [Path.firstUpward_eq]
      cases passed : passes start with
      | true =>
          rw [passed] at here
          rw [stations, List.find?_cons_of_pos here.symm]
          exact .some ⟨begins, reaches⟩
      | false =>
          rw [passed] at here
          cases above : start.parent? with
          | none =>
              have nowhere := Path.steps_of_parent?_eq_none above
              rw [nowhere, stations_nil, List.cons.injEq] at stations
              rw [nowhere, stations_nil, stations.1, List.find?_cons_of_neg (by simp [← here])]
              exact .none
          | some parent =>
              obtain ⟨further, onward, back | stay⟩ := reaches.parent above
              · rw [back, List.find?_cons_of_neg (by simp [← here])]
                exact inductionHypothesis parent above (begins.parent above) onward
              · rw [stay.2]
                exact inductionHypothesis parent above (begins.parent above) onward

end FileTree

end SheetLint
