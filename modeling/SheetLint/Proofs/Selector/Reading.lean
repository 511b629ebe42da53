/-
This file says which documents a selector accepts, told from its text.
-/

import SheetLint.Proofs.Text.Words
import SheetLint.Selector

namespace SheetLint

open Text

/-- A name is present when some scope is the name or goes on behind it with a dot. -/
def Present (scopes : List ScopeName) (name : ScopeName) : Prop :=
  ∃ scope ∈ scopes, scope = name ∨ ∃ more, scope = name ++ '.' :: more

/-- The words of a piece admit a document when all names before the first dash are present, and
there are some, and when of the names in each run behind a dash one is missing. -/
structure Admits (scopes words : List ScopeName) : Prop where
  included : ∃ names after, Run ['-'] words [] names after ∧ names ≠ [] ∧
    ∀ name ∈ names, Present scopes name
  excluded : ∀ before names after, Run ['-'] words (before ++ [['-']]) names after → names ≠ [] →
    ∃ name ∈ names, ¬ Present scopes name

namespace Selector

theorem nameMatches_iff (name scope : ScopeName) :
    nameMatches name scope = true ↔ scope = name ∨ ∃ more, scope = name ++ '.' :: more := by
  rw [nameMatches, Bool.or_eq_true, beq_iff_eq, List.isPrefixOf_iff_prefix]
  refine or_congr_right (exists_congr fun more => ?_)
  rw [List.append_assoc, eq_comm]
  rfl

theorem allPresent_iff (names scopes : List ScopeName) :
    allPresent names scopes = true ↔ ∀ name ∈ names, Present scopes name := by
  simp only [allPresent, List.all_eq_true, List.any_eq_true, nameMatches_iff, Present]

end Selector

namespace Alternative

variable {alternative : Alternative} {words : List ScopeName}

/-- The alternative holds the words that were read so far, the dashes between its groups. -/
structure Reads (alternative : Alternative) (words : List ScopeName) : Prop where
  whole : words = alternative.included ++
    alternative.excluded.flatMap fun group => ['-'] :: group
  included : ['-'] ∉ alternative.included
  excluded : ∀ group ∈ alternative.excluded, ['-'] ∉ group

/-- One more word is read behind the others. -/
theorem Reads.extend (read : alternative.Reads words) (word : ScopeName) :
    (alternative.extend word).Reads (words ++ [word]) := by
  obtain ⟨whole, included, excluded⟩ := read
  rw [Alternative.extend]
  by_cases dash : word = ['-']
  · rw [if_pos dash]
    refine ⟨by simp [whole, dash], included, ?_⟩
    rw [List.forall_mem_append, List.forall_mem_singleton]
    exact ⟨excluded, List.not_mem_nil⟩
  · rw [if_neg dash]
    cases open? : alternative.excluded.getLast? with
    | none =>
        rw [List.getLast?_eq_none_iff] at open?
        exact ⟨by simp [whole, open?], by simp [included, Ne.symm dash], excluded⟩
    | some group =>
        obtain ⟨front, groups⟩ := List.getLast?_eq_some_iff.mp open?
        rw [groups, List.forall_mem_append, List.forall_mem_singleton] at excluded
        refine ⟨by simp [whole, groups], included, ?_⟩
        simp only [groups, List.dropLast_concat]
        rw [List.forall_mem_append, List.forall_mem_singleton]
        exact ⟨excluded.1, by simp [excluded.2, Ne.symm dash]⟩

/-- More words are read one after the other. -/
theorem Reads.foldl (read : alternative.Reads words) (more : List ScopeName) :
    (more.foldl Alternative.extend alternative).Reads (words ++ more) := by
  induction more generalizing words alternative with
  | nil => simpa using read
  | cons word more inductionHypothesis =>
      have later := inductionHypothesis (read.extend word)
      rwa [List.append_assoc] at later

theorem reads_nil : Reads ⟨[], []⟩ [] :=
  ⟨rfl, List.not_mem_nil, fun _ member => absurd member List.not_mem_nil⟩

/-- What was read are the runs of the words between the dashes. -/
theorem Reads.splitOn_eq (read : alternative.Reads words) :
    words.splitOn ['-'] = alternative.included :: alternative.excluded := by
  obtain ⟨included, groups⟩ := alternative
  obtain ⟨whole, first, others⟩ := read
  induction groups generalizing words included with
  | nil => rw [whole, List.flatMap_nil, List.append_nil, List.splitOn_eq_singleton first]
  | cons group groups inductionHypothesis =>
      rw [List.forall_mem_cons] at others
      rw [whole, List.flatMap_cons, List.cons_append,
        List.splitOn_append_cons_self_of_not_mem first, inductionHypothesis _ rfl others.1 others.2]

theorem accepts_iff (alternative : Alternative) (scopes : List ScopeName) :
    alternative.accepts scopes = true ↔
      (∀ name ∈ alternative.included, Present scopes name) ∧
        ∀ group ∈ alternative.excluded, ∃ name ∈ group, ¬ Present scopes name := by
  rw [accepts, Bool.and_eq_true, Selector.allPresent_iff]
  simp [Selector.allPresent_iff]

end Alternative

namespace Selector

/-- A piece is cut at its dashes: the first run is included, and the others, as long as they hold a
name, are excluded. -/
theorem parseAlternative?_eq {piece : List Char} {names : List ScopeName}
    {groups : List (List ScopeName)} (runs : (words piece).splitOn ['-'] = names :: groups) :
    parseAlternative? piece =
      if names = [] then none else some ⟨names, groups.filter fun group => !group.isEmpty⟩ := by
  have read := Alternative.reads_nil.foldl (words piece)
  have same := read.splitOn_eq
  rw [List.nil_append, runs, List.cons.injEq] at same
  rw [parseAlternative?, same.1, same.2]
  simp only [List.isEmpty_iff]

theorem admits_iff {scopes list names : List ScopeName} {groups : List (List ScopeName)}
    (runs : list.splitOn ['-'] = names :: groups) :
    Admits scopes list ↔ names ≠ [] ∧ (∀ name ∈ names, Present scopes name) ∧
      ∀ group ∈ groups, group ≠ [] → ∃ name ∈ group, ¬ Present scopes name := by
  have start (run : List ScopeName) := run_start_iff ['-'] list run
  have behind (run : List ScopeName) := run_behind_iff ['-'] list run
  simp only [runs, List.head?_cons, Option.some.injEq, List.tail_cons] at start behind
  constructor
  · rintro ⟨⟨found, after, run, filled, present⟩, missing⟩
    obtain rfl := (start found).mp ⟨after, run⟩
    refine ⟨filled, present, fun group member some => ?_⟩
    obtain ⟨before, after, run⟩ := (behind group).mpr member
    exact missing before group after run some
  · rintro ⟨filled, present, missing⟩
    obtain ⟨after, run⟩ := (start names).mpr rfl
    exact ⟨⟨names, after, run, filled, present⟩, fun before group after run =>
      missing group ((behind group).mp ⟨before, after, run⟩)⟩

/-- A piece accepts a document as its words admit it. -/
theorem accepts_parseAlternative?_iff (piece : List Char) (scopes : List ScopeName) :
    (∃ alternative, parseAlternative? piece = some alternative ∧
      alternative.accepts scopes = true) ↔ Admits scopes (words piece) := by
  obtain ⟨names, groups, runs⟩ :=
    List.exists_cons_of_ne_nil (List.splitOn_ne_nil ['-'] (words piece))
  rw [admits_iff runs, parseAlternative?_eq runs]
  by_cases nothing : names = []
  · simp [nothing]
  · simp [nothing, Alternative.accepts_iff, and_imp]

theorem accepts_parse_iff_words (text : String) (scopes : List ScopeName) :
    (parse text).accepts scopes = true ↔
      ∃ piece ∈ text.toList.splitOn ',', Admits scopes (words piece) := by
  simp only [parse, ofCharacters, Selector.accepts, List.any_eq_true, List.mem_filterMap,
    cut_eq_splitOn, ← accepts_parseAlternative?_iff]
  constructor
  · rintro ⟨alternative, ⟨piece, member, read⟩, accepted⟩
    exact ⟨piece, member, alternative, read, accepted⟩
  · rintro ⟨piece, member, alternative, read, accepted⟩
    exact ⟨alternative, ⟨piece, member, read⟩, accepted⟩

theorem alternatives_parse_append (text other : String) :
    (parse (text ++ "," ++ other)).alternatives =
      (parse text).alternatives ++ (parse other).alternatives := by
  have comma : (text ++ "," ++ other).toList = text.toList ++ ',' :: other.toList := by simp
  simp only [parse, ofCharacters, cut_eq_splitOn, comma, List.splitOn_append_cons_self,
    List.filterMap_append]

/-- A text without commas is one piece. -/
theorem parse_of_piece {text : String} (single : ',' ∉ text.toList) :
    parse text = ⟨(parseAlternative? text.toList).toList⟩ := by
  rw [parse, ofCharacters, cut_eq_splitOn, List.splitOn_eq_singleton single]
  cases read : parseAlternative? text.toList <;> simp [read]

theorem alternatives_parse_of_nameless {text : String} (single : ',' ∉ text.toList)
    (nameless : ∀ first, (words text.toList).head? = some first → first = ['-']) :
    (parse text).alternatives = [] := by
  obtain ⟨groups, runs, -⟩ := splitOn_of_head nameless
  rw [parse_of_piece single, parseAlternative?_eq runs, if_pos rfl]
  rfl

/-- A dash with no names behind it can be left out. -/
theorem parse_of_empty_group {text other : String} {front later : List ScopeName}
    (single : ',' ∉ text.toList) (singleOther : ',' ∉ other.toList)
    (dash : ∀ first, later.head? = some first → first = ['-'])
    (read : words text.toList = front ++ ['-'] :: later)
    (readOther : words other.toList = front ++ later) : parse text = parse other := by
  obtain ⟨groups, runs, joined⟩ := splitOn_of_head dash
  obtain ⟨names, others, cut⟩ := List.exists_cons_of_ne_nil (List.splitOn_ne_nil ['-'] front)
  have textRuns : (words text.toList).splitOn ['-'] = names :: (others ++ [] :: groups) := by
    rw [read, List.splitOn_append_cons_self, cut, runs]
    rfl
  have otherRuns : (words other.toList).splitOn ['-'] = names :: (others ++ groups) := by
    rw [readOther, joined, cut]
    rfl
  rw [parse_of_piece single, parse_of_piece singleOther, parseAlternative?_eq textRuns,
    parseAlternative?_eq otherRuns]
  simp

/-- A selector accepts a document when the words of some piece between commas admit it. A piece
without names before its first dash selects nothing, a dash without names behind it changes nothing,
and a comma between two texts puts their alternatives side by side. -/
theorem accepts_parse_iff (text other : String) (scopes : List ScopeName) :
    ((parse text).accepts scopes = true ↔ ∃ before piece after list,
      Run ',' text.toList before piece after ∧ Spaced piece list ∧ Admits scopes list) ∧
    (∀ list, ',' ∉ text.toList → Spaced text.toList list →
      (∀ first, list.head? = some first → first = ['-']) → (parse text).alternatives = []) ∧
    (∀ front later, ',' ∉ text.toList → ',' ∉ other.toList →
      Spaced text.toList (front ++ ['-'] :: later) → Spaced other.toList (front ++ later) →
      (∀ first, later.head? = some first → first = ['-']) → parse text = parse other) ∧
    (parse (text ++ "," ++ other)).alternatives =
      (parse text).alternatives ++ (parse other).alternatives ∧
    ((parse (text ++ "," ++ other)).accepts scopes = true ↔
      (parse text).accepts scopes = true ∨ (parse other).accepts scopes = true) := by
  have joined := alternatives_parse_append text other
  refine ⟨?_, ?_, ?_, joined, ?_⟩
  · rw [accepts_parse_iff_words]
    simp only [← run_iff, spaced_iff]
    constructor
    · rintro ⟨piece, ⟨before, after, run⟩, admits⟩
      exact ⟨before, piece, after, _, run, rfl, admits⟩
    · rintro ⟨before, piece, after, list, run, rfl, admits⟩
      exact ⟨piece, ⟨before, after, run⟩, admits⟩
  · intro list single spaced nameless
    rw [spaced_iff] at spaced
    exact alternatives_parse_of_nameless single (spaced ▸ nameless)
  · intro front later single singleOther spaced spacedOther dash
    rw [spaced_iff] at spaced spacedOther
    exact parse_of_empty_group single singleOther dash spaced.symm spacedOther.symm
  · rw [Selector.accepts, joined, List.any_append, Bool.or_eq_true]
    rfl

/-- The first piece includes nothing, and the last dash excludes nothing. -/
example : (parse "- b, a - b c -").accepts ["a.b".toList, "c".toList] = true := by decide

end Selector

end SheetLint
