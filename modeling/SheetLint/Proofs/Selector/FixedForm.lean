/-
This file says which selectors can be read from texts and that each of them is read again from its
fixed form. So the fixed form tells selectors apart.
-/

import SheetLint.Proofs.Selector.Reading
import SheetLint.Selector.Writer

namespace SheetLint

open Text

/-- The text can be a name in a selector: one word without commas that is not a dash. -/
structure IsName (name : ScopeName) : Prop where
  filled : name ≠ []
  commaFree : ',' ∉ name
  inked : ∀ character ∈ name, isBlank character = false
  notDash : name ≠ ['-']

/-- The alternative includes some names, no excluded group is empty, and all its names are such. -/
structure Alternative.WellFormed (alternative : Alternative) : Prop where
  included : alternative.included ≠ []
  excluded : ∀ group ∈ alternative.excluded, group ≠ []
  includedNames : ∀ name ∈ alternative.included, IsName name
  excludedNames : ∀ group ∈ alternative.excluded, ∀ name ∈ group, IsName name

def Selector.WellFormed (selector : Selector) : Prop :=
  ∀ alternative ∈ selector.alternatives, alternative.WellFormed

namespace Selector

/-- The words of a piece between commas are names, except for the dashes. -/
theorem isName_of_mem_splitOn {piece : List Char} (single : ',' ∉ piece) {run : List ScopeName}
    (member : run ∈ (words piece).splitOn ['-']) {name : ScopeName} (inside : name ∈ run) :
    IsName name := by
  obtain ⟨filled, inner⟩ := of_mem_words (mem_of_mem_splitOn member inside)
  exact {
    filled
    commaFree := fun comma => single (inner ',' comma).2
    inked := fun character there => (inner character there).1
    notDash := fun dash => not_mem_of_mem_splitOn member (dash ▸ inside) }

theorem wellFormed_of_parseAlternative? {piece : List Char} (single : ',' ∉ piece)
    {alternative : Alternative} (read : parseAlternative? piece = some alternative) :
    alternative.WellFormed := by
  obtain ⟨names, groups, runs⟩ :=
    List.exists_cons_of_ne_nil (List.splitOn_ne_nil ['-'] (words piece))
  rw [parseAlternative?_eq runs] at read
  by_cases nothing : names = []
  · simp [nothing] at read
  · rw [if_neg nothing, Option.some.injEq] at read
    have named (run : List ScopeName) (member : run ∈ names :: groups) (name : ScopeName)
        (inside : name ∈ run) : IsName name :=
      isName_of_mem_splitOn single (runs ▸ member) inside
    rw [← read]
    refine ⟨nothing, ?_, named names List.mem_cons_self, ?_⟩
    · intro group member empty
      simp [empty] at member
    · intro group member
      exact named group (List.mem_cons_of_mem _ (List.mem_filter.mp member).1)

theorem wellFormed_parse (text : String) : (parse text).WellFormed := by
  intro alternative member
  rw [parse, ofCharacters, cut_eq_splitOn] at member
  obtain ⟨piece, inside, read⟩ := List.mem_filterMap.mp member
  exact wellFormed_of_parseAlternative? (not_mem_of_mem_splitOn inside) read

theorem comma_not_mem_writeNames {names : List ScopeName} (named : ∀ name ∈ names, IsName name) :
    ',' ∉ writeNames names := by
  intro comma
  rcases mem_of_mem_intercalate comma with gap | ⟨name, member, inside⟩
  · exact absurd gap (by decide)
  · exact (named name member).commaFree inside

theorem words_writeNames {names : List ScopeName} (named : ∀ name ∈ names, IsName name) :
    words (writeNames names) = names :=
  words_intercalate (fun name member => (named name member).filled)
    fun name member => (named name member).inked

end Selector

namespace Alternative

open Selector

variable {alternative : Alternative}

theorem WellFormed.comma_not_mem_write (formed : alternative.WellFormed) :
    ',' ∉ alternative.write := by
  rw [write, List.mem_append, List.mem_flatMap]
  rintro (comma | ⟨group, member, comma⟩)
  · exact comma_not_mem_writeNames formed.includedNames comma
  · rcases List.mem_append.mp comma with dash | comma
    · exact absurd dash (by decide)
    · exact comma_not_mem_writeNames (formed.excludedNames group member) comma

/-- Each group behind a text adds a dash and its names to the words of the text. -/
theorem words_append_groups (front : List Char) {groups : List (List ScopeName)}
    (named : ∀ group ∈ groups, ∀ name ∈ group, IsName name) :
    words (front ++ groups.flatMap fun group => [' ', '-', ' '] ++ writeNames group) =
      words front ++ groups.flatMap fun group => ['-'] :: group := by
  induction groups generalizing front with
  | nil => simp
  | cons group groups inductionHypothesis =>
      rw [List.forall_mem_cons] at named
      have later := inductionHypothesis (writeNames group) named.2
      -- the dash stands between two blanks
      have opened (rest : List Char) :
          words (front ++ ([' ', '-', ' '] ++ rest)) = words front ++ ['-'] :: words rest := by
        have inner : words (['-'] ++ ' ' :: rest) = ['-'] :: words rest :=
          words_append_cons_of_blank (by decide) ['-'] rest
        rw [← inner]
        exact words_append_cons_of_blank (by decide) front _
      rw [words_writeNames named.1] at later
      rw [List.flatMap_cons, List.flatMap_cons, List.append_assoc, opened, later]
      rfl

/-- The fixed form of an alternative holds its words in their order. -/
theorem WellFormed.reads_write (formed : alternative.WellFormed) :
    alternative.Reads (words alternative.write) where
  whole := by
    rw [write, words_append_groups _ formed.excludedNames, words_writeNames formed.includedNames]
  included := fun dash => (formed.includedNames _ dash).notDash rfl
  excluded := fun group member dash => (formed.excludedNames group member _ dash).notDash rfl

theorem WellFormed.parseAlternative?_write (formed : alternative.WellFormed) :
    parseAlternative? alternative.write = some alternative := by
  have groups : (alternative.excluded.filter fun group => !group.isEmpty) =
      alternative.excluded := by
    rw [List.filter_eq_self]
    intro group member
    simpa using formed.excluded group member
  rw [parseAlternative?_eq formed.reads_write.splitOn_eq, if_neg formed.included, groups]

end Alternative

namespace Selector

theorem parseAlternative?_cons_of_blank (piece : List Char) :
    parseAlternative? (' ' :: piece) = parseAlternative? piece := by
  have blank : ∀ character ∈ [' '], isBlank character = true :=
    List.forall_mem_singleton.mpr (by decide)
  have same : words (' ' :: piece) = words piece := words_append_of_blank blank piece
  rw [parseAlternative?, same, parseAlternative?]

/-- Pieces joined by a comma and a blank are cut behind each comma. -/
theorem splitOn_intercalate_comma {piece : List Char} {pieces : List (List Char)}
    (single : ',' ∉ piece) (others : ∀ other ∈ pieces, ',' ∉ other) :
    ([',', ' '].intercalate (piece :: pieces)).splitOn ',' =
      piece :: pieces.map (' ' :: ·) := by
  induction pieces generalizing piece with
  | nil => rw [List.intercalate_singleton, List.splitOn_eq_singleton single, List.map_nil]
  | cons next pieces inductionHypothesis =>
      rw [List.forall_mem_cons] at others
      have behind : [',', ' '].intercalate (piece :: next :: pieces) =
          piece ++ ',' :: [',', ' '].intercalate ((' ' :: next) :: pieces) := by
        rw [List.intercalate_cons_cons, List.intercalate_cons_cons_left]
        simp
      have plain : ',' ∉ ' ' :: next := by simp [others.1]
      have later := inductionHypothesis plain others.2
      rw [behind, List.splitOn_append_cons_self_of_not_mem single, later, List.map_cons]

theorem filterMap_of_map_eq {pieces : List (List Char)} {alternatives : List Alternative}
    (read : pieces.map parseAlternative? = alternatives.map some) :
    pieces.filterMap parseAlternative? = alternatives := by
  have kept := congrArg (List.filterMap id) read
  rwa [List.filterMap_map, List.filterMap_map, Function.id_comp, Function.id_comp,
    List.filterMap_some] at kept

/-- A well-formed selector is read from its fixed form. -/
theorem WellFormed.parse_write {selector : Selector} (formed : selector.WellFormed) :
    parse (String.ofList selector.write) = selector := by
  obtain ⟨alternatives⟩ := selector
  rw [parse, ofCharacters, cut_eq_splitOn, String.toList_ofList, write]
  cases alternatives with
  | nil => rfl
  | cons first others =>
      have plain (alternative : Alternative) (member : alternative ∈ first :: others) :
          ',' ∉ alternative.write := (formed alternative member).comma_not_mem_write
      have pieces : ∀ piece ∈ others.map Alternative.write, ',' ∉ piece := by
        rw [List.forall_mem_map]
        exact fun other member => plain other (List.mem_cons_of_mem _ member)
      have later (alternative : Alternative) (member : alternative ∈ others) :
          parseAlternative? (' ' :: alternative.write) = some alternative := by
        rw [parseAlternative?_cons_of_blank]
        exact (formed alternative (List.mem_cons_of_mem _ member)).parseAlternative?_write
      rw [List.map_cons, splitOn_intercalate_comma (plain first List.mem_cons_self) pieces]
      congr 1
      apply filterMap_of_map_eq
      rw [List.map_cons, (formed first List.mem_cons_self).parseAlternative?_write, List.map_map,
        List.map_map, List.map_cons]
      exact congrArg (some first :: ·) (List.map_congr_left later)

/-- The selectors that are read from texts are the well-formed ones, and these are the selectors
that are read again from their fixed form. So two texts give the same selector when their fixed
forms are the same text. -/
theorem wellFormed_iff_parse_write :
    (∀ selector : Selector, (∃ text, parse text = selector) ↔ selector.WellFormed) ∧
    (∀ selector : Selector,
      selector.WellFormed ↔ parse (String.ofList selector.write) = selector) ∧
    (∀ text, parse (String.ofList (parse text).write) = parse text) ∧
    ∀ text other, parse text = parse other ↔
      String.ofList (parse text).write = String.ofList (parse other).write := by
  have again (text : String) : parse (String.ofList (parse text).write) = parse text :=
    (wellFormed_parse text).parse_write
  refine ⟨fun selector => ⟨?_, ?_⟩, fun selector => ⟨WellFormed.parse_write, ?_⟩, again, ?_⟩
  · rintro ⟨text, rfl⟩
    exact wellFormed_parse text
  · exact fun formed => ⟨_, formed.parse_write⟩
  · intro read
    exact read ▸ wellFormed_parse _
  · intro text other
    constructor
    · exact fun same => by rw [same]
    · intro same
      rw [← again text, same, again other]

/-- A dash that is part of a word is no dash, and blanks and empty groups are not kept. -/
example : (parse "- x, a  b -c - - d,, -e -").write = "a b -c - d, -e".toList := by decide

end Selector

end SheetLint
