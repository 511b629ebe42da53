/-
This file compares a pattern with the text that it is read from. A text without wildcards fits its
own pattern and nothing else does; one with wildcards may or may not fit.
-/

import SheetLint.Proofs.Glob.Growth
import SheetLint.Proofs.Path.Parents

namespace SheetLint.Glob

theorem someEnd_of_suffix {passes : List Char → Bool} {ending text : List Char}
    (ends : ending <:+ text) (passed : passes ending = true) : someEnd passes text = true := by
  induction text with
  | nil =>
      rw [List.suffix_nil] at ends
      rw [ends] at passed
      exact passed
  | cons character text inductionHypothesis =>
      rw [someEnd, Bool.or_eq_true]
      rcases List.suffix_cons_iff.mp ends with whole | later
      · exact .inl (whole ▸ passed)
      · exact .inr (inductionHypothesis later)

/-- A pattern without wildcards is fit by the text that it writes out, and by no other one. -/
theorem fits_iff_of_literal? {pattern : Pattern} {written name : List Char}
    (literal : literal? pattern = some written) : fits pattern name = true ↔ name = written := by
  fun_induction literal? pattern generalizing written name with
  | case1 =>
      rw [← Option.some.inj literal, fits, List.isEmpty_iff]
  | case2 character pattern inductionHypothesis =>
      obtain ⟨rest, behind, rfl⟩ := Option.map_eq_some_iff.mp literal
      cases name with
      | nil => simp [fits, Token.isSequence]
      | cons first name =>
          have later : fits pattern name = true ↔ name = rest := inductionHypothesis behind
          simp [fits, Token.isSequence, Token.holds, later]
  | case3 => simp at literal

/-- A token that is no single character keeps a pattern from being written out. -/
theorem literal?_cons_of_ne {token : Token} (wild : ∀ character, token ≠ .character character)
    (pattern : Pattern) : literal? (token :: pattern) = none := by
  cases token with
  | character character => exact absurd rfl (wild character)
  | _ => rfl

/-- A pattern that writes out a text was read from that text. -/
theorem eq_of_literal?_readTokens {fuel : Nat} {starts : Bool} {text : List Char}
    {pattern : Pattern} (enough : text.length ≤ fuel)
    (read : readTokens fuel starts text = some pattern) {name : List Char}
    (literal : literal? pattern = some name) : name = text := by
  fun_induction readTokens fuel starts text generalizing pattern name with
  | case1 =>
      rw [← Option.some.inj read] at literal
      rw [List.eq_nil_of_length_eq_zero (Nat.le_zero.mp enough)]
      exact (Option.some.inj literal).symm
  | case2 =>
      rw [← Option.some.inj read] at literal
      exact (Option.some.inj literal).symm
  | case4 | case6 | case8 | case10 | case11 => simp at read
  | case7 =>
      rw [← Option.some.inj read] at literal
      simp [literal?] at literal
  | case3 | case9 | case12 =>
      obtain ⟨tokens, -, rfl⟩ := Option.map_eq_some_iff.mp read
      simp [literal?] at literal
  | case5 fuel _ rest token left opened inductionHypothesis =>
      obtain ⟨tokens, -, rfl⟩ := Option.map_eq_some_iff.mp read
      rw [literal?_cons_of_ne (suffix_of_readClass? opened).2.ne.2] at literal
      simp at literal
  | case13 fuel _ first rest _ _ _ inductionHypothesis =>
      obtain ⟨tokens, behind, rfl⟩ := Option.map_eq_some_iff.mp read
      obtain ⟨later, written, rfl⟩ := Option.map_eq_some_iff.mp literal
      have shorter : rest.length ≤ fuel := Nat.le_of_succ_le_succ enough
      rw [inductionHypothesis shorter behind written]

theorem eq_of_literal?_parse? {text name : List Char} {pattern : Pattern}
    (read : parse? text = some pattern) (literal : literal? pattern = some name) : name = text :=
  eq_of_literal?_readTokens (Nat.le_refl _) read literal

/-- These are the characters that make wildcards. -/
def wildcards : List Char :=
  ['*', '?', '[']

/-- A text without the characters of wildcards is written out by its pattern. -/
theorem literal?_of_wildcardFree {fuel : Nat} {starts : Bool} {text : List Char}
    {pattern : Pattern} (read : readTokens fuel starts text = some pattern)
    (free : ∀ character ∈ text, character ∉ wildcards) : (literal? pattern).isSome = true := by
  fun_induction readTokens fuel starts text generalizing pattern with
  | case1 | case2 =>
      obtain rfl := Option.some.inj read
      rfl
  | case3 | case4 | case5 | case6 | case7 | case8 | case9 | case10 | case11 | case12 =>
      exact absurd (free _ List.mem_cons_self) (by decide)
  | case13 fuel _ first rest _ _ _ inductionHypothesis =>
      obtain ⟨tokens, behind, rfl⟩ := Option.map_eq_some_iff.mp read
      rw [literal?, Option.isSome_map]
      exact inductionHypothesis behind (List.forall_mem_cons.mp free).2

/-- A pattern that begins with a single character was read from a text that begins with it. -/
theorem head?_of_readTokens {fuel : Nat} {starts : Bool} {text : List Char} {pattern : Pattern}
    (read : readTokens fuel starts text = some pattern) {character : Char}
    (first : pattern.head? = some (.character character)) : text.head? = some character := by
  fun_induction readTokens fuel starts text generalizing pattern with
  | case4 | case6 | case8 | case10 | case11 => simp at read
  | case1 | case2 | case7 =>
      obtain rfl := Option.some.inj read
      simp at first
  | case3 | case9 | case12 =>
      obtain ⟨tokens, -, rfl⟩ := Option.map_eq_some_iff.mp read
      simp at first
  | case5 fuel _ rest token left opened =>
      obtain ⟨tokens, -, rfl⟩ := Option.map_eq_some_iff.mp read
      exact absurd (Option.some.inj first) ((suffix_of_readClass? opened).2.ne.2 _)
  | case13 fuel _ head rest =>
      obtain ⟨tokens, -, rfl⟩ := Option.map_eq_some_iff.mp read
      exact congrArg some (Token.character.inj (Option.some.inj first))

/-- Behind its first character a text without slashes cannot reach into directories. -/
theorem isRecursive_of_readTokens {fuel : Nat} {starts : Bool} {text : List Char}
    {pattern : Pattern} (plain : '/' ∉ text) (read : readTokens fuel starts text = some pattern)
    (other : starts = true → text ≠ ['*', '*']) : isRecursive pattern = false := by
  have behind {rest : Option Pattern} {token : Token} {pattern : Pattern}
      (read : rest.map (token :: ·) = some pattern) (single : token ≠ .anyDirectories)
      (later : ∀ tokens, rest = some tokens → isRecursive tokens = false) :
      isRecursive pattern = false := by
    obtain ⟨tokens, found, rfl⟩ := Option.map_eq_some_iff.mp read
    have inside := later tokens found
    simp only [isRecursive, List.contains_cons, Bool.or_eq_false_iff, beq_eq_false_iff_ne]
      at inside ⊢
    exact ⟨Ne.symm single, inside⟩
  fun_induction readTokens fuel starts text generalizing pattern with
  | case4 | case6 | case8 | case10 | case11 => simp at read
  | case1 | case2 =>
      rw [← Option.some.inj read]
      rfl
  | case7 => exact absurd rfl (other rfl)
  | case9 => simp at plain
  | case3 fuel _ rest inductionHypothesis =>
      rw [List.mem_cons, not_or] at plain
      exact behind read (by simp) fun tokens found => inductionHypothesis plain.2 found (by simp)
  | case12 fuel _ rest _ _ _ _ inductionHypothesis =>
      rw [List.mem_cons, not_or] at plain
      exact behind read (by simp) fun tokens found => inductionHypothesis plain.2 found (by simp)
  | case5 fuel _ rest token left opened inductionHypothesis =>
      rw [List.mem_cons, not_or] at plain
      obtain ⟨ends, isClass⟩ := suffix_of_readClass? opened
      exact behind read isClass.ne.1 fun tokens found =>
        inductionHypothesis (fun slash => plain.2 (ends.subset slash)) found (by simp)
  | case13 fuel _ first rest _ _ _ inductionHypothesis =>
      rw [List.mem_cons, not_or] at plain
      have inside : (first == '/') = false := by simpa using Ne.symm plain.1
      rw [inside] at read inductionHypothesis
      exact behind read (by simp) fun tokens found => inductionHypothesis plain.2 found (by simp)

/-- Of the segments only two stars reach into directories. -/
theorem isRecursive_of_parse? {segment : List Char} {pattern : Pattern} (plain : '/' ∉ segment)
    (single : segment ≠ ['*', '*']) (read : parse? segment = some pattern) :
    isRecursive pattern = false :=
  isRecursive_of_readTokens plain read fun _ => single

/-- The text is read as a pattern, and fits it. -/
def FitsItself (text : List Char) : Prop :=
  ∃ pattern, parse? text = some pattern ∧ fits pattern text = true

instance (text : List Char) : Decidable (FitsItself text) :=
  decidable_of_iff ((parse? text).any (fits · text) = true) (Option.any_eq_true _ _)

theorem fitsItself_of_isTrivial {text : List Char} (trivial : Path.isTrivial text = true) :
    FitsItself text := by
  rcases (Path.isTrivial_iff text).mp trivial with rfl | rfl <;> decide

theorem exists_readTokens_fits {fuel : Nat} {starts : Bool} {text : List Char}
    (enough : text.length ≤ fuel) (bracketFree : '[' ∉ text) (apart : ¬ ['*', '*'] <:+: text) :
    ∃ pattern, readTokens fuel starts text = some pattern ∧ fits pattern text = true := by
  fun_induction readTokens fuel starts text with
  | case1 =>
      rw [List.eq_nil_of_length_eq_zero (Nat.le_zero.mp enough)]
      exact ⟨[], rfl, rfl⟩
  | case2 => exact ⟨[], rfl, rfl⟩
  | case4 | case5 => simp at bracketFree
  | case6 | case7 | case8 | case9 | case10 | case11 =>
      exact absurd (List.prefix_append ['*', '*'] _).isInfix apart
  | case3 fuel _ rest inductionHypothesis =>
      rw [List.mem_cons, not_or] at bracketFree
      obtain ⟨pattern, read, fit⟩ := inductionHypothesis (Nat.le_of_succ_le_succ enough)
        bracketFree.2 fun inside => apart (inside.trans (List.suffix_cons _ _).isInfix)
      exact ⟨_, by rw [read]; rfl, by simpa [fits, Token.isSequence, Token.holds] using fit⟩
  | case12 fuel _ rest _ _ _ _ inductionHypothesis =>
      rw [List.mem_cons, not_or] at bracketFree
      obtain ⟨pattern, read, fit⟩ := inductionHypothesis (Nat.le_of_succ_le_succ enough)
        bracketFree.2 fun inside => apart (inside.trans (List.suffix_cons _ _).isInfix)
      -- the star itself goes into the sequence
      have passed := someEnd_of_suffix (List.suffix_cons '*' rest) fit
      exact ⟨_, by rw [read]; rfl, by simpa [fits, Token.isSequence] using passed⟩
  | case13 fuel _ first rest _ _ _ inductionHypothesis =>
      rw [List.mem_cons, not_or] at bracketFree
      obtain ⟨pattern, read, fit⟩ := inductionHypothesis (Nat.le_of_succ_le_succ enough)
        bracketFree.2 fun inside => apart (inside.trans (List.suffix_cons _ _).isInfix)
      exact ⟨_, by rw [read]; rfl, by simpa [fits, Token.isSequence, Token.holds] using fit⟩

/-- Brackets and adjacent stars are all that can keep a text from fitting itself. -/
theorem fitsItself_of_bracketFree {text : List Char} (bracketFree : '[' ∉ text)
    (apart : ¬ ['*', '*'] <:+: text) : FitsItself text :=
  exists_readTokens_fits (Nat.le_refl _) bracketFree apart

theorem splitAtBracket_append {text inside left : List Char}
    (cut : splitAtBracket text = some (inside, left)) (rest : List Char) :
    splitAtBracket (text ++ rest) = some (inside, left ++ rest) := by
  fun_induction splitAtBracket text generalizing inside with
  | case1 => simp at cut
  | case2 text =>
      obtain ⟨rfl, rfl⟩ := Prod.mk.inj (Option.some.inj cut)
      rfl
  | case3 character text other inductionHypothesis =>
      obtain ⟨⟨inner, outer⟩, later, same⟩ := Option.map_eq_some_iff.mp cut
      obtain ⟨rfl, rfl⟩ := Prod.mk.inj same
      rw [List.cons_append, splitAtBracket, inductionHypothesis later]
      · rfl
      · exact other

/-- A class that is closed within a text is the same in any longer text. -/
theorem readClass?_append {text left : List Char} {token : Token}
    (read : readClass? text = some (token, left)) (rest : List Char) :
    readClass? (text ++ rest) = some (token, left ++ rest) := by
  rw [readClass?.eq_def] at read
  split at read
  · obtain ⟨⟨inside, outer⟩, cut, same⟩ := Option.map_eq_some_iff.mp read
    obtain ⟨rfl, rfl⟩ := Prod.mk.inj same
    simp [readClass?, splitAtBracket_append cut]
  · simp at read
  · rename_i first text turned single
    obtain ⟨⟨inside, outer⟩, cut, same⟩ := Option.map_eq_some_iff.mp read
    obtain ⟨rfl, rfl⟩ := Prod.mk.inj same
    have straight : first ≠ '!' := by
      rintro rfl
      cases text with
      | nil => exact single rfl rfl
      | cons next text => exact turned next text rfl rfl
    rw [List.cons_append, readClass?, splitAtBracket_append cut]
    · rfl
    · exact fun _ _ same => absurd same straight
    · exact fun same => absurd same straight
  · simp at read

theorem readTokens_slash (fuel : Nat) (starts : Bool) (rest : List Char) :
    readTokens (fuel + 1) starts ('/' :: rest) =
      (readTokens fuel true rest).map (.character '/' :: ·) := by
  rw [readTokens]
  · rfl
  all_goals simp

/-- The text can be read behind any segment: it begins with the slash that ends the segment, unless
there is nothing in it. -/
structure Continues (text : List Char) : Prop where
  slash : ∀ first, text.head? = some first → first = '/'
  read : ∀ fuel starts, text.length ≤ fuel → (readTokens fuel starts text).isSome = true

theorem continues_nil : Continues [] where
  slash := nofun
  read := by
    intro fuel starts _
    cases fuel <;> rfl

theorem continues_slash {rest : List Char}
    (read : ∀ fuel, rest.length ≤ fuel → (readTokens fuel true rest).isSome = true) :
    Continues ('/' :: rest) where
  slash := fun _ first => (Option.some.inj first).symm
  read := by
    intro fuel starts enough
    obtain ⟨fuel, rfl⟩ := Nat.exists_eq_add_one_of_ne_zero (Nat.ne_zero_of_lt enough)
    rw [readTokens_slash, Option.isSome_map]
    exact read fuel (Nat.le_of_succ_le_succ enough)

/-- A text that can be read can be read with anything behind it that continues it. -/
theorem isSome_readTokens_append {fuel more : Nat} {starts : Bool} {text rest : List Char}
    (enough : text.length ≤ fuel) (read : (readTokens fuel starts text).isSome = true)
    (behind : Continues rest) (room : (text ++ rest).length ≤ more) :
    (readTokens more starts (text ++ rest)).isSome = true := by
  -- there is fuel for a character that is read
  have positive {first : Char} {text : List Char} {more : Nat}
      (room : (first :: text ++ rest).length ≤ more) :
      ∃ less, more = less + 1 ∧ (text ++ rest).length ≤ less := by
    obtain ⟨less, rfl⟩ := Nat.exists_eq_add_one_of_ne_zero (Nat.ne_zero_of_lt room)
    exact ⟨less, rfl, Nat.le_of_succ_le_succ room⟩
  fun_induction readTokens fuel starts text generalizing more with
  | case1 =>
      cases List.eq_nil_of_length_eq_zero (Nat.le_zero.mp enough)
      exact behind.read more _ room
  | case2 => exact behind.read more _ room
  | case4 | case6 | case8 | case10 | case11 => simp at read
  | case3 fuel _ text inductionHypothesis =>
      obtain ⟨more, rfl, left⟩ := positive room
      rw [List.cons_append, readTokens, Option.isSome_map]
      exact inductionHypothesis (Nat.le_of_succ_le_succ enough) (by simpa using read) left
  | case5 fuel _ text token outer opened inductionHypothesis =>
      obtain ⟨more, rfl, left⟩ := positive room
      have shorter := (suffix_of_readClass? opened).1.length_le
      rw [List.length_append] at left
      rw [List.length_cons] at enough
      rw [List.cons_append, readTokens, readClass?_append opened, Option.isSome_map]
      apply inductionHypothesis (by omega) (by simpa using read)
      rw [List.length_append]
      omega
  | case7 =>
      obtain ⟨more, rfl, left⟩ := positive room
      cases rest with
      | nil => rfl
      | cons first rest =>
          obtain rfl := behind.slash first rfl
          have later := behind.read (more + 1) true (Nat.le_succ_of_le (Nat.le_of_succ_le left))
          rw [readTokens_slash, Option.isSome_map] at later
          rw [List.cons_append, List.cons_append, List.nil_append, readTokens, if_pos rfl,
            Option.isSome_map]
          exact later
  | case9 fuel text inductionHypothesis =>
      obtain ⟨more, rfl, left⟩ := positive room
      rw [List.cons_append, List.cons_append, List.cons_append, readTokens, if_pos rfl,
        Option.isSome_map]
      exact inductionHypothesis (by simp only [List.length_cons] at enough; omega)
        (by simpa using read) (Nat.le_of_succ_le (Nat.le_of_succ_le left))
  | case12 fuel _ text _ _ _ single inductionHypothesis =>
      obtain ⟨more, rfl, left⟩ := positive room
      have other (tail : List Char) : text ++ rest ≠ '*' :: tail := by
        intro same
        cases text with
        | nil =>
            rw [List.nil_append] at same
            exact absurd (behind.slash '*' (by rw [same]; rfl)) (by decide)
        | cons first text => exact single text (by rw [List.head_eq_of_cons_eq same])
      rw [List.cons_append, readTokens, Option.isSome_map]
      · exact inductionHypothesis (Nat.le_of_succ_le_succ enough) (by simpa using read) left
      exacts [fun _ => other _, other _, fun _ => other _, fun _ => other _]
  | case13 fuel _ first text _ _ _ inductionHypothesis =>
      obtain ⟨more, rfl, left⟩ := positive room
      rw [List.cons_append, readTokens, Option.isSome_map]
      · exact inductionHypothesis (Nat.le_of_succ_le_succ enough) (by simpa using read) left
      all_goals assumption

/-- Segments that can be read one by one make a text that can be read as a whole. -/
theorem isSome_readTokens_joinSegments {segments : List (List Char)}
    (read : ∀ segment ∈ segments, (parse? segment).isSome = true) {fuel : Nat}
    (enough : (Path.joinSegments segments).length ≤ fuel) :
    (readTokens fuel true (Path.joinSegments segments)).isSome = true := by
  induction segments generalizing fuel with
  | nil => exact continues_nil.read fuel true enough
  | cons segment segments inductionHypothesis =>
      rw [List.forall_mem_cons] at read
      have first {rest : List Char} {fuel : Nat} :=
        @isSome_readTokens_append _ fuel _ _ rest (Nat.le_refl segment.length) read.1
      by_cases more : segments = []
      · rw [more, Path.joinSegments, List.intercalate_singleton,
          ← List.append_nil segment] at enough ⊢
        exact first continues_nil enough
      · rw [Path.joinSegments_cons segment more] at enough ⊢
        exact first (continues_slash fun _ => inductionHypothesis read.2) enough

/-- A path can be read as a pattern when its segments can. -/
theorem isSome_parse?_of_segments {path : Path}
    (read : ∀ segment ∈ path.segments, (parse? segment).isSome = true) :
    (parse? path.characters).isSome = true := by
  have behind {fuel : Nat} := @isSome_readTokens_joinSegments _ read fuel
  rw [Path.characters_eq, Path.rootText, parse?]
  split
  · rw [List.singleton_append, List.length_cons, readTokens_slash, Option.isSome_map]
    exact behind (Nat.le_refl _)
  · exact behind (Nat.le_refl _)

end SheetLint.Glob
