/-
This file shows how the paths that a search finds are made: each grows from the start of the search
by names without slashes, one after the other.
-/

import Mathlib.Data.List.Forall2
import SheetLint.Glob.Search
import SheetLint.Proofs.Path.Segments

namespace SheetLint

/-- No name in the tree holds a slash. -/
def FileTree.SlashFree (tree : FileTree) : Prop :=
  ∀ entry ∈ tree.entries, ∀ name ∈ entry.1, '/' ∉ name

instance (tree : FileTree) : Decidable tree.SlashFree :=
  inferInstanceAs (Decidable (∀ entry ∈ tree.entries, ∀ name ∈ entry.1, '/' ∉ name))

theorem FileTree.exists_entry_of_mem_children {tree : FileTree} {place : Place}
    {name : List Char} (member : name ∈ tree.children place) :
    ∃ entry ∈ tree.entries, name ∈ entry.1 := by
  rw [FileTree.children, List.mem_filterMap] at member
  obtain ⟨entry, listed, last⟩ := member
  rw [Option.ite_none_right_eq_some] at last
  exact ⟨entry, listed, List.mem_of_getLast? last.2⟩

namespace Glob

theorem suffix_of_splitAtBracket {text inside left : List Char}
    (cut : splitAtBracket text = some (inside, left)) : left <:+ text := by
  fun_induction splitAtBracket text generalizing inside with
  | case1 => simp at cut
  | case2 rest =>
      simp only [Option.some.injEq, Prod.mk.injEq] at cut
      rw [← cut.2]
      exact List.suffix_cons _ _
  | case3 character rest _ inductionHypothesis =>
      rw [Option.map_eq_some_iff] at cut
      obtain ⟨⟨inner, outer⟩, later, same⟩ := cut
      obtain ⟨-, rfl⟩ := Prod.mk.inj same
      exact (inductionHypothesis later).trans (List.suffix_cons _ _)

/-- This is a class, whichever way around. -/
def Token.IsClass (token : Token) : Prop :=
  ∃ members, token = .anyOf members ∨ token = .anyBut members

theorem Token.IsClass.ne {token : Token} (isClass : token.IsClass) :
    token ≠ .anyDirectories ∧ ∀ character, token ≠ .character character := by
  obtain ⟨members, rfl | rfl⟩ := isClass <;> exact ⟨nofun, nofun⟩

/-- What is left behind a class is the end of the text. -/
theorem suffix_of_readClass? {text left : List Char} {token : Token}
    (read : readClass? text = some (token, left)) : left <:+ text ∧ token.IsClass := by
  rw [readClass?.eq_def] at read
  split at read
  · rename_i first rest
    obtain ⟨⟨inside, outer⟩, cut, same⟩ := Option.map_eq_some_iff.mp read
    obtain ⟨rfl, rfl⟩ := Prod.mk.inj same
    refine ⟨?_, _, .inr rfl⟩
    exact (suffix_of_splitAtBracket cut).trans
      ((List.suffix_cons _ _).trans (List.suffix_cons _ _))
  · simp at read
  · rename_i first rest _ _
    obtain ⟨⟨inside, outer⟩, cut, same⟩ := Option.map_eq_some_iff.mp read
    obtain ⟨rfl, rfl⟩ := Prod.mk.inj same
    exact ⟨(suffix_of_splitAtBracket cut).trans (List.suffix_cons _ _), _, .inl rfl⟩
  · simp at read

/-- A single character behind another token stands in the rest of the pattern. -/
theorem character_mem_of_cons {rest : Option Pattern} {token : Token} {pattern : Pattern}
    {character : Char} (read : rest.map (token :: ·) = some pattern)
    (other : token ≠ .character character) (member : Token.character character ∈ pattern) :
    ∃ tokens, rest = some tokens ∧ Token.character character ∈ tokens := by
  obtain ⟨tokens, behind, rfl⟩ := Option.map_eq_some_iff.mp read
  exact ⟨tokens, behind, (List.mem_cons.mp member).resolve_left (Ne.symm other)⟩

/-- The single characters of a pattern are characters of its text. -/
theorem character_mem_of_readTokens {fuel : Nat} {starts : Bool} {text : List Char}
    {pattern : Pattern} (read : readTokens fuel starts text = some pattern) {character : Char}
    (member : Token.character character ∈ pattern) : character ∈ text := by
  fun_induction readTokens fuel starts text generalizing pattern with
  | case4 | case6 | case8 | case10 | case11 => simp at read
  | case1 | case2 | case7 =>
      rw [← Option.some.inj read] at member
      simp at member
  | case3 fuel _ rest inductionHypothesis =>
      obtain ⟨tokens, behind, later⟩ := character_mem_of_cons read nofun member
      exact List.mem_cons_of_mem _ (inductionHypothesis behind later)
  | case5 fuel _ rest token left opened inductionHypothesis =>
      obtain ⟨ends, isClass⟩ := suffix_of_readClass? opened
      obtain ⟨tokens, behind, later⟩ := character_mem_of_cons read (isClass.ne.2 _) member
      exact List.mem_cons_of_mem _ (ends.subset (inductionHypothesis behind later))
  | case9 fuel later inductionHypothesis =>
      obtain ⟨tokens, behind, inside⟩ := character_mem_of_cons read nofun member
      have rest := inductionHypothesis behind inside
      simp [rest]
  | case12 fuel _ rest _ _ _ _ inductionHypothesis =>
      obtain ⟨tokens, behind, later⟩ := character_mem_of_cons read nofun member
      exact List.mem_cons_of_mem _ (inductionHypothesis behind later)
  | case13 fuel _ first rest _ _ _ inductionHypothesis =>
      by_cases same : first = character
      · exact same ▸ List.mem_cons_self
      · obtain ⟨tokens, behind, later⟩ := character_mem_of_cons read (by simpa using same) member
        exact List.mem_cons_of_mem _ (inductionHypothesis behind later)

theorem subset_of_literal? {pattern : Pattern} {name : List Char}
    (literal : literal? pattern = some name) {character : Char} (member : character ∈ name) :
    Token.character character ∈ pattern := by
  fun_induction literal? pattern generalizing name with
  | case1 =>
      rw [← Option.some.inj literal] at member
      simp at member
  | case2 first pattern inductionHypothesis =>
      obtain ⟨rest, behind, rfl⟩ := Option.map_eq_some_iff.mp literal
      rcases List.mem_cons.mp member with here | later
      · exact here ▸ List.mem_cons_self
      · exact List.mem_cons_of_mem _ (inductionHypothesis behind later)
  | case3 => simp at literal

/-- No single character of the pattern is a slash. -/
def Plain (pattern : Pattern) : Prop :=
  Token.character '/' ∉ pattern

theorem plain_of_parse? {segment : List Char} {pattern : Pattern} (plain : '/' ∉ segment)
    (read : parse? segment = some pattern) : Plain pattern :=
  fun slash => plain (character_mem_of_readTokens read slash)

/-- Every pattern is read from its segment. -/
def ReadFrom (segments : List (List Char)) (patterns : List Pattern) : Prop :=
  List.Forall₂ (fun segment pattern => parse? segment = some pattern) segments patterns

theorem readFrom_of_parseAll? {segments : List (List Char)} {patterns : List Pattern}
    (read : parseAll? segments = some patterns) : ReadFrom segments patterns := by
  induction segments generalizing patterns with
  | nil =>
      obtain rfl := Option.some.inj read
      exact .nil
  | cons segment segments inductionHypothesis =>
      rw [parseAll?] at read
      split at read
      · rename_i pattern others first rest
        obtain rfl := Option.some.inj read
        exact .cons first (inductionHypothesis rest)
      · simp at read

theorem ReadFrom.exists_segment {segments : List (List Char)} {patterns : List Pattern}
    (read : ReadFrom segments patterns) :
    ∀ pattern ∈ patterns, ∃ segment ∈ segments, parse? segment = some pattern := by
  induction read with
  | nil => nofun
  | cons first _ inductionHypothesis =>
      rw [List.forall_mem_cons]
      refine ⟨⟨_, List.mem_cons_self, first⟩, fun pattern member => ?_⟩
      obtain ⟨segment, listed, read⟩ := inductionHypothesis pattern member
      exact ⟨segment, List.mem_cons_of_mem _ listed, read⟩

theorem segmentsOf_subset (text : List Char) : segmentsOf text ⊆ Path.segmentsOf text := by
  rw [segmentsOf]
  split
  · exact List.dropLast_subset _
  · exact List.Subset.refl _

theorem slash_not_mem_segmentsOf (text : List Char) :
    ∀ segment ∈ segmentsOf text, '/' ∉ segment :=
  fun segment member => Path.slash_not_mem_segmentsOf text segment (segmentsOf_subset text member)

theorem exists_entry_of_mem_names {ground : Ground} {path : Path} {name : List Char}
    (member : name ∈ ground.names path) : ∃ entry ∈ ground.tree.entries, name ∈ entry.1 := by
  rw [Ground.names] at member
  split at member
  · simp at member
  · exact FileTree.exists_entry_of_mem_children member

theorem slash_not_mem_names {ground : Ground} (named : ground.tree.SlashFree) {path : Path}
    {name : List Char} (member : name ∈ ground.names path) : '/' ∉ name := by
  obtain ⟨entry, listed, inside⟩ := exists_entry_of_mem_names member
  exact named entry listed name inside

/-- These are the two names that every directory has. -/
def dotNames : List (List Char) :=
  [['.'], ['.', '.']]

theorem slash_not_mem_dotNames : ∀ name ∈ dotNames, '/' ∉ name := by
  decide

/-- These are the names by which a search goes on, with the path that each leads to: those that a
pattern writes out, those in the directory, and for a wildcard behind a dot the two that every
directory has. -/
inductive Offers (ground : Ground) (patterns : List Pattern) (path : Path) (name : List Char) :
    Path → Prop
  | written {pattern : Pattern} (member : pattern ∈ patterns)
      (literal : literal? pattern = some name) : Offers ground patterns path name (under path name)
  | listed (member : name ∈ ground.names path) : Offers ground patterns path name (under path name)
  | dotted {pattern : Pattern} (member : pattern ∈ patterns) (wild : literal? pattern = none)
      (first : pattern.head? = some (.character '.')) (dots : name ∈ dotNames) :
      Offers ground patterns path name (path.join ⟨name⟩)

/-- The search ends at the next path, or goes on from there with some of its patterns. -/
def GoesOn (ground : Ground) (fuel : Nat) (patterns : List Pattern) (next found : Path) : Prop :=
  found = next ∨ ∃ others, others ⊆ patterns ∧ found ∈ search ground fuel others next

/-- What a search finds lies behind one of the names that it is offered. -/
theorem exists_of_mem_search {ground : Ground} {fuel : Nat} {patterns : List Pattern}
    {path found : Path} (member : found ∈ search ground (fuel + 1) patterns path) :
    ∃ name next, Offers ground patterns path name next ∧
      GoesOn ground fuel patterns next found := by
  cases patterns with
  | nil => simp [search] at member
  | cons pattern patterns =>
      have rest : patterns ⊆ pattern :: patterns := List.subset_cons_self _ _
      have accepted {others : List Pattern} (less : others ⊆ pattern :: patterns) {next : Path}
          (member : found ∈
            (if others.isEmpty then (if ground.wanted next then [next] else [])
              else search ground fuel others next)) :
          GoesOn ground fuel (pattern :: patterns) next found := by
        split at member
        · split at member
          · exact .inl (List.mem_singleton.mp member)
          · simp at member
        · exact .inr ⟨others, less, member⟩
      have compared {first : Pattern} {others : List Pattern}
          (less : others ⊆ pattern :: patterns) {next : Path} {name : List Char}
          (member : found ∈
            (if !fits first name then []
              else if others.isEmpty then (if ground.wanted next then [next] else [])
              else search ground fuel others next)) :
          GoesOn ground fuel (pattern :: patterns) next found := by
        split at member
        · simp at member
        · exact accepted less member
      rw [search.eq_def] at member
      dsimp only at member
      split at member
      · rename_i name literal
        split at member
        · exact ⟨name, _, .written List.mem_cons_self literal, accepted rest member⟩
        · simp at member
      · rename_i wild
        split at member
        · rcases List.mem_append.mp member with child | dotted
          · obtain ⟨name, listed, visited⟩ := List.mem_flatMap.mp child
            refine ⟨name, _, .listed listed, ?_⟩
            split at visited
            · -- the directories below are searched again for the same pattern
              have later : patterns.dropWhile isRecursive ⊆ pattern :: patterns :=
                List.subset_cons_of_subset _ (List.dropWhile_subset _)
              rcases List.mem_append.mp visited with deeper | here
              · split at deeper
                · rcases List.mem_append.mp deeper with inside | itself
                  · exact .inr ⟨_, List.cons_subset.mpr ⟨List.mem_cons_self, later⟩, inside⟩
                  · split at itself
                    · exact .inl (List.mem_singleton.mp itself)
                    · simp at itself
                · simp at deeper
              · split at here
                · simp at here
                · rename_i next others front
                  rw [front] at later
                  split at here
                  · simp at here
                  · exact compared (List.Subset.trans (List.subset_cons_self _ _) later) here
            · split at visited
              · simp at visited
              · exact compared rest visited
          · split at dotted
            · obtain ⟨name, dots, visited⟩ := List.mem_flatMap.mp dotted
              exact ⟨name, _, .dotted List.mem_cons_self wild rfl (List.mem_of_mem_filter dots),
                accepted rest visited⟩
            · simp at dotted
        · simp at member

theorem slash_not_mem_of_offers {ground : Ground} (named : ground.tree.SlashFree)
    {patterns : List Pattern} (plain : ∀ pattern ∈ patterns, Plain pattern) {path next : Path}
    {name : List Char} (offers : Offers ground patterns path name next) : '/' ∉ name := by
  cases offers with
  | written member literal => exact fun slash => plain _ member (subset_of_literal? literal slash)
  | listed member => exact slash_not_mem_names named member
  | dotted _ _ _ dots => exact slash_not_mem_dotNames name dots

theorem Offers.mono {ground : Ground} {patterns others : List Pattern} {path next : Path}
    {name : List Char} (less : others ⊆ patterns) (offers : Offers ground others path name next) :
    Offers ground patterns path name next := by
  cases offers with
  | written member literal => exact .written (less member) literal
  | listed member => exact .listed member
  | dotted member wild first dots => exact .dotted (less member) wild first dots

/-- What holds of the start of a search, and goes over from each path to the next ones, holds of all
that is found. -/
theorem search_induction {ground : Ground} {motive : Path → Prop} {patterns : List Pattern}
    (next : ∀ path name next, Offers ground patterns path name next → motive path → motive next)
    {fuel : Nat} {path : Path} (here : motive path) :
    ∀ found ∈ search ground fuel patterns path, motive found := by
  induction fuel generalizing patterns path with
  | zero => simp [search]
  | succ fuel inductionHypothesis =>
      intro found member
      obtain ⟨name, further, offers, goesOn⟩ := exists_of_mem_search member
      have there := next path name further offers here
      rcases goesOn with rfl | ⟨others, less, inside⟩
      · exact there
      · exact inductionHypothesis (fun path name further offers => next path name further
          (offers.mono less)) there found inside

/-- This is a property that a path keeps when a name without a slash is put behind it, and that
such a name has when it stands alone. -/
structure Growing (motive : Path → Prop) : Prop where
  join : ∀ path name, '/' ∉ name → motive path → motive (path.join ⟨name⟩)
  alone : ∀ name, '/' ∉ name → motive ⟨name⟩

theorem Growing.under {motive : Path → Prop} (growing : Growing motive) {path : Path}
    {name : List Char} (plain : '/' ∉ name) (here : motive path) : motive (under path name) := by
  rw [Glob.under]
  split
  · exact growing.alone name plain
  · exact growing.join path name plain here

theorem Growing.offers {motive : Path → Prop} (growing : Growing motive) {ground : Ground}
    {patterns : List Pattern} {path next : Path} {name : List Char} (plain : '/' ∉ name)
    (offers : Offers ground patterns path name next) (here : motive path) : motive next := by
  cases offers with
  | written | listed => exact growing.under plain here
  | dotted => exact growing.join path name plain here

/-- The path from which a search starts is the root or a lone dot. -/
def searchStart (rooted : Bool) : Path :=
  if rooted then ⟨['/']⟩ else ⟨['.']⟩

theorem searchStart_eq (rooted : Bool) :
    (searchStart rooted).isAbsolute = rooted ∧ (searchStart rooted).steps = [] := by
  cases rooted <;> exact ⟨rfl, rfl⟩

/-- These are the segments by which a text is searched, and the one without anything in it. -/
def searchedSegments (text : List Char) : List (List Char) :=
  [] :: segmentsOf (if text.head? == some '/' then text.drop 1 else text)

/-- What holds of the start of a search, and goes over from each path to the next ones, holds of all
that fits the text. -/
theorem expand_induction {tree : FileTree} (named : tree.SlashFree) {text : List Char}
    {motive : Path → Prop} (start : motive (searchStart (text.head? == some '/')))
    (next : ∀ ground patterns path name next, ground.tree = tree →
      (∀ pattern ∈ patterns, ∃ segment ∈ searchedSegments text, parse? segment = some pattern) →
      Offers ground patterns path name next → '/' ∉ name → motive path → motive next)
    (current : Place) : ∀ found ∈ expand tree current text, motive found := by
  rw [expand]
  dsimp only
  split
  · rename_i parsed patterns whole read
    generalize searched : (if (if text.head? == some '/' then text.drop 1 else text).isEmpty
      then [[]] else patterns) = patterns'
    have readable : ∀ pattern ∈ patterns', ∃ segment ∈ searchedSegments text,
        parse? segment = some pattern := by
      have alternatives : patterns' = [[]] ∨ patterns' = patterns := searched ▸ ite_eq_or_eq _ _ _
      intro pattern member
      rcases alternatives with rfl | rfl
      · rw [List.mem_singleton.mp member]
        exact ⟨[], List.mem_cons_self, rfl⟩
      · obtain ⟨segment, listed, read⟩ :=
          (readFrom_of_parseAll? read).exists_segment pattern member
        exact ⟨segment, List.mem_cons_of_mem _ listed, read⟩
    have plain : ∀ pattern ∈ patterns', Plain pattern := by
      intro pattern member
      obtain ⟨segment, listed, read⟩ := readable pattern member
      refine plain_of_parse? ?_ read
      rcases List.mem_cons.mp listed with rfl | inside
      · exact List.not_mem_nil
      · exact slash_not_mem_segmentsOf _ segment inside
    refine search_induction (fun path name further offers here => ?_) start
    exact next _ patterns' path name further rfl readable offers
      (slash_not_mem_of_offers named plain offers) here
  · simp

/-- What fits a pattern has every growing property that the root and the current directory have. -/
theorem forall_mem_expand {tree : FileTree} {motive : Path → Prop} (growing : Growing motive)
    (named : tree.SlashFree) (root : motive ⟨['/']⟩) (here : motive ⟨['.']⟩) (current : Place)
    (text : List Char) : ∀ found ∈ expand tree current text, motive found := by
  refine expand_induction named ?_ ?_ current
  · rw [searchStart]
    split
    · exact root
    · exact here
  · intro ground patterns path name next _ _ offers plain here
    exact growing.offers plain offers here

end Glob

end SheetLint
