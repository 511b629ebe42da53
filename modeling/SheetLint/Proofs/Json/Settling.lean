/-
This file shows which entry of an object counts when a key is spelled several times.
-/

import SheetLint.Proofs.Json.Grammar

namespace SheetLint.Json

/-- This is the last value of a key, which is the one that counts. -/
def final? (key : String) (entries : List (String × Value)) : Option Value :=
  entries.reverse.lookup key

theorem settledItems_eq_map (items : List Value) :
    settledItems items = items.map Value.settled := by
  induction items with
  | nil => rfl
  | cons item items inductionHypothesis => rw [settledItems, inductionHypothesis, List.map_cons]

theorem lookup_entry {Content : Type} (key : String) (entry : String × Content)
    (entries : List (String × Content)) :
    (entry :: entries).lookup key = if key = entry.1 then some entry.2 else entries.lookup key := by
  rw [List.lookup_cons]
  by_cases same : key = entry.1
  · rw [if_pos same, beq_iff_eq.mpr same]
  · rw [if_neg same, beq_eq_false_iff_ne.mpr same]

/-- An entry counts unless its key appears again behind it. -/
theorem final?_cons (key : String) (entry : String × Value) (entries : List (String × Value)) :
    final? key (entry :: entries) =
      (final? key entries).or (if key = entry.1 then some entry.2 else none) := by
  rw [final?, List.reverse_cons, List.lookup_append, lookup_entry]
  rfl

theorem final?_append (key : String) (before after : List (String × Value)) :
    final? key (before ++ after) = (final? key after).or (final? key before) := by
  rw [final?, List.reverse_append, List.lookup_append]
  rfl

theorem lookup_put (key name : String) (value : Value) (entries : List (String × Value)) :
    (put name value entries).lookup key =
      if key = name then some value else entries.lookup key := by
  induction entries with
  | nil => exact lookup_entry key (name, value) []
  | cons entry entries inductionHypothesis =>
      rw [put]
      by_cases known : entry.1 = name
      · rw [if_pos known, lookup_entry, lookup_entry, known]
        by_cases same : key = name
        · rw [if_pos same, if_pos same]
        · rw [if_neg same, if_neg same, if_neg same]
      · rw [if_neg known, lookup_entry, lookup_entry, inductionHypothesis]
        by_cases first : key = entry.1
        · have other : ¬ key = name := fun equal => known (first ▸ equal)
          rw [if_pos first, if_neg other, if_pos first]
        · rw [if_neg first, if_neg first]

/-- The value that a key keeps is its last one; a key without an entry keeps its known value. -/
theorem lookup_settledEntries (key : String) (known entries : List (String × Value)) :
    (settledEntries known entries).lookup key =
      ((final? key entries).map Value.settled).or (known.lookup key) := by
  -- An entry moves from the list to the known ones, where later entries may replace it.
  induction entries generalizing known with
  | nil => rfl
  | cons entry entries inductionHypothesis =>
      rw [settledEntries, inductionHypothesis, lookup_put, final?_cons]
      cases final? key entries with
      | some value => rfl
      | none =>
          by_cases same : key = entry.1
          · rw [if_pos same, if_pos same]
            rfl
          · rw [if_neg same, if_neg same]
            rfl

/-- Every key has one entry. -/
def Distinct {Content : Type} (entries : List (String × Content)) : Prop :=
  (entries.map Prod.fst).Nodup

theorem distinct_nil : Distinct ([] : List (String × Value)) :=
  List.nodup_nil

theorem keys_put (name : String) (value : Value) (entries : List (String × Value)) :
    (put name value entries).map Prod.fst =
      if name ∈ entries.map Prod.fst then entries.map Prod.fst
      else entries.map Prod.fst ++ [name] := by
  induction entries with
  | nil => rfl
  | cons entry entries inductionHypothesis =>
      rw [put]
      by_cases known : entry.1 = name
      · simp [known]
      · have other : ¬ name = entry.1 := fun equal => known equal.symm
        rw [if_neg known, List.map_cons, List.map_cons, inductionHypothesis]
        by_cases later : name ∈ entries.map Prod.fst
        · rw [if_pos later, if_pos (List.mem_cons_of_mem _ later)]
        · rw [if_neg later, if_neg (by simp [other, later]), List.cons_append]

theorem Distinct.put {entries : List (String × Value)} (distinct : Distinct entries) (name : String)
    (value : Value) : Distinct (put name value entries) := by
  rw [Distinct, keys_put]
  split
  · exact distinct
  · next absent =>
      have single := List.nodup_cons.mpr ⟨@List.not_mem_nil _ name, List.nodup_nil⟩
      refine List.nodup_append.mpr ⟨distinct, single, ?_⟩
      intro key inKeys other isName equal
      rw [List.mem_singleton.mp isName] at equal
      exact absent (equal ▸ inKeys)

theorem distinct_settledEntries {known : List (String × Value)} (distinct : Distinct known)
    (entries : List (String × Value)) : Distinct (settledEntries known entries) := by
  induction entries generalizing known with
  | nil => exact distinct
  | cons entry entries inductionHypothesis =>
      rw [settledEntries]
      exact inductionHypothesis (distinct.put entry.1 entry.2.settled)

theorem Distinct.lookup_of_mem {Content : Type} {entries : List (String × Content)}
    (distinct : Distinct entries) {entry : String × Content} (member : entry ∈ entries) :
    entries.lookup entry.1 = some entry.2 := by
  induction entries with
  | nil => exact absurd member List.not_mem_nil
  | cons first entries inductionHypothesis =>
      rw [Distinct, List.map_cons, List.nodup_cons] at distinct
      rcases List.mem_cons.mp member with same | later
      · rw [same, lookup_entry, if_pos rfl]
      · have other : ¬ entry.1 = first.1 :=
          fun equal => distinct.1 (equal ▸ List.mem_map_of_mem later)
        rw [lookup_entry, if_neg other]
        exact inductionHypothesis distinct.2 later

/-- No object in the value spells a key twice. -/
inductive Unrepeated : Value → Prop where
  | null : Unrepeated .null
  | boolean (value : Bool) : Unrepeated (.boolean value)
  | number (number : Number) : Unrepeated (.number number)
  | text (value : String) : Unrepeated (.text value)
  | sequence {items : List Value} (unrepeated : ∀ item ∈ items, Unrepeated item) :
      Unrepeated (.sequence items)
  | mapping {entries : List (String × Value)} (distinct : Distinct entries)
      (unrepeated : ∀ entry ∈ entries, Unrepeated entry.2) : Unrepeated (.mapping entries)

/-- Entries with keys of their own are put behind the known ones as they are. -/
theorem settledEntries_of_distinct {known entries : List (String × Value)}
    (distinct : Distinct (known ++ entries))
    (settled : ∀ entry ∈ entries, entry.2.settled = entry.2) :
    settledEntries known entries = known ++ entries := by
  induction entries generalizing known with
  | nil => exact (List.append_nil _).symm
  | cons entry entries inductionHypothesis =>
      rw [List.forall_mem_cons] at settled
      have absent : ∀ other ∈ known, other.1 ≠ entry.1 := by
        intro other member same
        rw [Distinct, List.map_append, List.nodup_append] at distinct
        exact distinct.2.2 other.1 (List.mem_map_of_mem member) entry.1
          (List.mem_map_of_mem List.mem_cons_self) same
      rw [List.append_cons] at distinct
      rw [settledEntries, settled.1, put_of_absent _ _ _ absent,
        inductionHypothesis distinct settled.2]
      exact (List.append_cons _ _ _).symm

theorem settled_of_unrepeated {value : Value} (unrepeated : Unrepeated value) :
    value.settled = value := by
  induction unrepeated with
  | null | boolean | number | text => rw [Value.settled]
  | @sequence items _ inductionHypothesis =>
      rw [Value.settled, settledItems_eq_map, List.map_congr_left inductionHypothesis, List.map_id']
  | @mapping entries distinct _ inductionHypothesis =>
      have kept := @settledEntries_of_distinct [] entries distinct inductionHypothesis
      rw [Value.settled, kept, List.nil_append]

end SheetLint.Json
