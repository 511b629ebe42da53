/-
This file says which outputs are the text of a crash, by their lines and by a search pattern.
-/

import Mathlib.Data.List.TakeWhile
import SheetLint.Outcome
import SheetLint.Proofs.Text.FirstOccurrence
import SheetLint.Proofs.Text.Lines
import SheetLint.Proofs.Text.Pattern
import SheetLint.Proofs.Text.Trimming

namespace SheetLint.Outcome

open SheetLint.Text

/-- This pattern notes what follows the mark on its line. -/
def markPattern : Pattern :=
  .literal crashMark (.group (.run true (· != '\n')))

/-- This pattern lets word characters stand before the mark. -/
def wordMarkPattern : Pattern :=
  .sequence (.run true isWordCharacter) markPattern

/-- This pattern lets a line feed stand before the word. -/
def lineFeedPattern : Pattern :=
  .sequence (.optional (.one (· == '\n'))) wordMarkPattern

/-- This pattern lets a carriage return stand before the line feed. -/
def lineBreakPattern : Pattern :=
  .sequence (.optional (.one (· == '\u000d'))) lineFeedPattern

/-- This is the pattern `\A.*?\r?\n?\w*Error: (.*)`, where the dot is every character but the
line feed. -/
def crashPattern : Pattern :=
  .sequence (.run false (· != '\n')) lineBreakPattern

/-- The line announces a crash: it is the first line and holds the mark, or the first line does not
hold the mark and the second one starts with word characters and the mark. -/
def CrashLine (text line : List Char) : Prop :=
  (line = firstLine text ∧ crashMark <:+: firstLine text) ∨
    (¬ crashMark <:+: firstLine text ∧ secondLine? text = some line ∧
      ∃ word rest, (∀ character ∈ word, isWordCharacter character = true) ∧
        line = word ++ crashMark ++ rest)

/-- This is what follows the first mark of a line, when only word characters stand before it. -/
def afterWordMark? (line : List Char) : Option (List Char) :=
  match splitAtFirst crashMark line with
  | some parts => if parts.1.all isWordCharacter then some parts.2 else none
  | none => none

theorem isWordCharacter_lineFeed : isWordCharacter '\n' = false := by decide +kernel

theorem isWordCharacter_carriageReturn : isWordCharacter '\u000d' = false := by decide +kernel

theorem isWordCharacter_colon : isWordCharacter ':' = false := by decide +kernel

theorem isWordCharacter_upperE : isWordCharacter 'E' = true := by decide +kernel

/-- The crash message is told by the first two lines. -/
theorem crashMessage?_eq (text : List Char) :
    crashMessage? text =
      match splitAtFirst crashMark (firstLine text) with
      | some parts => some parts.2
      | none => (secondLine? text).bind afterWordMark? := by
  rw [crashMessage?, lines_eq]
  cases first : splitAtFirst crashMark (firstLine text) with
  | some parts => simp [first]
  | none =>
      cases later : laterLines? text with
      | none => simp [first, secondLine?, later]
      | some rest =>
          simp only [first, secondLine?, later, Option.map_some, Option.getD_some, lines_eq rest,
            Option.bind_some]
          rfl

/-- At the front of a text the search splits at once. -/
theorem splitAtFirst_mark_append (rest : List Char) :
    splitAtFirst crashMark (crashMark ++ rest) = some ([], rest) :=
  splitAtFirst_append crashMark rest

theorem firstLine_mark_append (rest : List Char) :
    firstLine (crashMark ++ rest) = crashMark ++ firstLine rest := rfl

/-- A text and its first line start with the mark together. -/
theorem mark_prefix_firstLine_iff (text : List Char) :
    crashMark <+: firstLine text ↔ crashMark <+: text :=
  prefix_firstLine_iff (by decide) text

theorem afterWordMark?_mark_append (rest : List Char) :
    afterWordMark? (crashMark ++ rest) = some rest := by
  rw [afterWordMark?, splitAtFirst_mark_append]
  rfl

/-- A character in front of the mark has to be a word character. -/
theorem afterWordMark?_cons {character : Char} {rest : List Char}
    (absent : ¬ crashMark <+: character :: rest) :
    afterWordMark? (character :: rest) =
      if isWordCharacter character then afterWordMark? rest else none := by
  rw [afterWordMark?, afterWordMark?, splitAtFirst_cons absent]
  cases splitAtFirst crashMark rest with
  | none => simp
  | some parts => cases letter : isWordCharacter character <;> simp [letter]

/-- Inside the mark no second mark begins behind word characters. -/
theorem afterWordMark?_mark_tail (rest : List Char) :
    afterWordMark? (crashMark.tail ++ rest) = none := by
  have colon : afterWordMark? (':' :: ' ' :: rest) = none := by
    rw [afterWordMark?_cons (by simp [crashMark]), isWordCharacter_colon]
    rfl
  change afterWordMark? ('r' :: 'r' :: 'o' :: 'r' :: ':' :: ' ' :: rest) = none
  iterate 4 rw [afterWordMark?_cons (by simp [crashMark])]
  rw [colon]
  simp

/-- The mark pattern matches where the text starts with the mark. -/
theorem capture?_markPattern_append (rest : List Char) :
    markPattern.capture? (crashMark ++ rest) = some (some (firstLine rest)) := by
  rw [markPattern, Pattern.capture?_literal, if_pos (by simp), List.drop_left,
    Pattern.capture?_group_run]
  rfl

theorem capture?_markPattern_of_absent {text : List Char} (absent : ¬ crashMark <+: text) :
    markPattern.capture? text = none := by
  rw [markPattern, Pattern.capture?_literal, if_neg (by rwa [List.isPrefixOf_iff_prefix])]

/-- The word pattern looks at the first line only. -/
theorem capture?_wordMarkPattern (text : List Char) :
    wordMarkPattern.capture? text = (afterWordMark? (firstLine text)).map some := by
  induction text with
  | nil =>
      have absent : markPattern.capture? [] = none :=
        capture?_markPattern_of_absent (by simp [crashMark])
      rw [wordMarkPattern, Pattern.capture?_run_nil, absent]
      rfl
  | cons character rest inductionHypothesis =>
      rw [wordMarkPattern, Pattern.capture?_greedy_cons, ← wordMarkPattern, inductionHypothesis]
      by_cases starts : crashMark <+: character :: rest
      · obtain ⟨after, equal⟩ := starts
        have head : 'E' = character := (List.cons.inj equal).1
        have tail : crashMark.tail ++ after = rest := (List.cons.inj equal).2
        have inner : firstLine (crashMark.tail ++ after) = crashMark.tail ++ firstLine after := rfl
        rw [← equal, capture?_markPattern_append, firstLine_mark_append,
          afterWordMark?_mark_append, ← head, isWordCharacter_upperE, ← tail, inner,
          afterWordMark?_mark_tail]
        rfl
      · rw [capture?_markPattern_of_absent starts]
        by_cases feed : character = '\n'
        · rw [feed, isWordCharacter_lineFeed]
          rfl
        · have absent : ¬ crashMark <+: character :: firstLine rest := by
            rwa [← firstLine_cons feed, mark_prefix_firstLine_iff]
          rw [firstLine_cons feed, afterWordMark?_cons absent]
          cases isWordCharacter character <;> simp

/-- A word does not start with a character that is neither part of a word nor the start of the
mark. -/
theorem capture?_wordMarkPattern_of_not_word {character : Char}
    (other : isWordCharacter character = false) (rest : List Char) :
    wordMarkPattern.capture? (character :: rest) = none := by
  have absent : ¬ crashMark <+: character :: rest := by
    intro given
    obtain ⟨after, equal⟩ := given
    rw [← (List.cons.inj equal).1, isWordCharacter_upperE] at other
    exact Bool.noConfusion other
  rw [wordMarkPattern, Pattern.capture?_greedy_cons, other,
    capture?_markPattern_of_absent absent]
  rfl

/-- Behind a line feed the word is looked for on the next line. -/
theorem capture?_lineFeedPattern_lineFeed (rest : List Char) :
    lineFeedPattern.capture? ('\n' :: rest) = wordMarkPattern.capture? rest := by
  rw [lineFeedPattern, Pattern.capture?_optional (Pattern.plain_one _), Pattern.capture?_one_cons,
    capture?_wordMarkPattern_of_not_word isWordCharacter_lineFeed]
  simp

theorem capture?_lineFeedPattern_cons {character : Char} (other : character ≠ '\n')
    (rest : List Char) :
    lineFeedPattern.capture? (character :: rest) =
      wordMarkPattern.capture? (character :: rest) := by
  rw [lineFeedPattern, Pattern.capture?_optional (Pattern.plain_one _), Pattern.capture?_one_cons]
  simp [other]

theorem capture?_lineBreakPattern_return (rest : List Char) :
    lineBreakPattern.capture? ('\u000d' :: rest) = lineFeedPattern.capture? rest := by
  rw [lineBreakPattern, Pattern.capture?_optional (Pattern.plain_one _), Pattern.capture?_one_cons,
    capture?_lineFeedPattern_cons (by decide),
    capture?_wordMarkPattern_of_not_word isWordCharacter_carriageReturn]
  simp

theorem capture?_lineBreakPattern_cons {character : Char} (other : character ≠ '\u000d')
    (rest : List Char) :
    lineBreakPattern.capture? (character :: rest) =
      lineFeedPattern.capture? (character :: rest) := by
  rw [lineBreakPattern, Pattern.capture?_optional (Pattern.plain_one _), Pattern.capture?_one_cons]
  simp [other]

/-- Behind an empty first line the second line decides. -/
theorem crashMessage?_lineFeed (rest : List Char) :
    crashMessage? ('\n' :: rest) = afterWordMark? (firstLine rest) := by
  rw [crashMessage?_eq]
  rfl

theorem crashMessage?_mark_append (rest : List Char) :
    crashMessage? (crashMark ++ rest) = some (firstLine rest) := by
  rw [crashMessage?_eq, firstLine_mark_append, splitAtFirst_mark_append]

/-- A character in front of the first mark does not matter. -/
theorem crashMessage?_cons {character : Char} {rest : List Char} (other : character ≠ '\n')
    (absent : ¬ crashMark <+: character :: rest) :
    crashMessage? (character :: rest) = crashMessage? rest := by
  have absentOnLine : ¬ crashMark <+: character :: firstLine rest := by
    rwa [← firstLine_cons other, mark_prefix_firstLine_iff]
  rw [crashMessage?_eq, crashMessage?_eq, firstLine_cons other, splitAtFirst_cons absentOnLine,
    secondLine?, secondLine?, laterLines?_cons other]
  cases splitAtFirst crashMark (firstLine rest) <;> rfl

/-- A mark behind a word on the first line is the first one there. -/
theorem crashMessage?_of_afterWordMark? {text message : List Char}
    (found : afterWordMark? (firstLine text) = some message) :
    crashMessage? text = some message := by
  rw [afterWordMark?] at found
  rw [crashMessage?_eq]
  cases split : splitAtFirst crashMark (firstLine text) with
  | none => simp [split] at found
  | some parts =>
      simp only [split] at found
      split at found
      · exact found
      · exact absurd found (by simp)

/-- The word pattern never wins over the two lines. -/
theorem capture?_wordMarkPattern_or (text : List Char) :
    (wordMarkPattern.capture? text).or ((crashMessage? text).map some) =
      (crashMessage? text).map some := by
  rw [capture?_wordMarkPattern]
  cases found : afterWordMark? (firstLine text) with
  | none => rfl
  | some message => rw [crashMessage?_of_afterWordMark? found]; rfl

theorem capture?_lineFeedPattern_or (text : List Char) :
    (lineFeedPattern.capture? text).or ((crashMessage? text).map some) =
      (crashMessage? text).map some := by
  cases text with
  | nil => rfl
  | cons character rest =>
      by_cases feed : character = '\n'
      · rw [feed, capture?_lineFeedPattern_lineFeed, capture?_wordMarkPattern,
          crashMessage?_lineFeed, Option.or_self]
      · rw [capture?_lineFeedPattern_cons feed, capture?_wordMarkPattern_or]

/-- The matcher finds the crash message of the two lines. -/
theorem capture?_crashPattern (text : List Char) :
    crashPattern.capture? text = (crashMessage? text).map some := by
  induction text with
  | nil => rfl
  | cons character rest inductionHypothesis =>
      rw [crashPattern, Pattern.capture?_lazy_cons, ← crashPattern, inductionHypothesis]
      by_cases feed : character = '\n'
      · rw [feed, capture?_lineBreakPattern_cons (by decide), capture?_lineFeedPattern_lineFeed,
          capture?_wordMarkPattern, crashMessage?_lineFeed]
        simp
      · rw [if_pos (by simpa using feed)]
        by_cases starts : crashMark <+: character :: rest
        · obtain ⟨after, equal⟩ := starts
          have noReturn : character ≠ '\u000d' := by
            rw [← (List.cons.inj equal).1]
            decide
          rw [capture?_lineBreakPattern_cons noReturn, capture?_lineFeedPattern_cons feed,
            capture?_wordMarkPattern, ← equal, firstLine_mark_append, afterWordMark?_mark_append,
            crashMessage?_mark_append]
          rfl
        · rw [crashMessage?_cons feed starts]
          by_cases back : character = '\u000d'
          · rw [back, capture?_lineBreakPattern_return, capture?_lineFeedPattern_or]
          · rw [capture?_lineBreakPattern_cons back, capture?_lineFeedPattern_cons feed,
              ← crashMessage?_cons feed starts, capture?_wordMarkPattern_or]

/-- A line of word characters and the mark is split at this mark. -/
theorem afterWordMark?_eq_some_iff (line after : List Char) :
    afterWordMark? line = some after ↔
      (∃ word rest, (∀ character ∈ word, isWordCharacter character = true) ∧
        line = word ++ crashMark ++ rest) ∧
      ∃ before, FirstOccurrence crashMark line before after := by
  rw [afterWordMark?]
  constructor
  · intro found
    cases split : splitAtFirst crashMark line with
    | none => simp [split] at found
    | some parts =>
        simp only [split] at found
        split at found
        case isTrue letters =>
          have occurrence := (splitAtFirst_eq_some_iff _ _ _ _).mp split
          rw [← Option.some.inj found]
          exact ⟨⟨parts.1, parts.2, by simpa using letters, occurrence.whole⟩, parts.1, occurrence⟩
        case isFalse => exact absurd found (by simp)
  · intro given
    obtain ⟨⟨word, rest, letters, equal⟩, before, occurrence⟩ := given
    -- The first occurrence is not behind the word, so what stands before it is part of the word.
    have short : before.length ≤ word.length := occurrence.earliest word rest equal
    have beforeStarts : before <+: line := by
      rw [occurrence.whole, List.append_assoc]
      exact List.prefix_append _ _
    have wordStarts : word <+: line := by
      rw [equal, List.append_assoc]
      exact List.prefix_append _ _
    have inWord : before <+: word := List.prefix_of_prefix_length_le beforeStarts wordStarts short
    have all : before.all isWordCharacter = true := by
      rw [List.all_eq_true]
      exact fun character member => letters character (inWord.subset member)
    rw [(splitAtFirst_eq_some_iff _ _ _ _).mpr occurrence]
    simp only [all, ↓reduceIte]

/-- The crash message follows the first mark of the line that announces the crash. -/
theorem crashMessage?_eq_some_iff (text after : List Char) :
    crashMessage? text = some after ↔
      ∃ line before, CrashLine text line ∧ FirstOccurrence crashMark line before after := by
  rw [crashMessage?_eq]
  cases split : splitAtFirst crashMark (firstLine text) with
  | some parts =>
      have marked : crashMark <:+: firstLine text := by
        by_contra unmarked
        rw [← splitAtFirst_eq_none_iff, split] at unmarked
        exact absurd unmarked (by simp)
      constructor
      · intro found
        rw [← Option.some.inj found]
        exact ⟨firstLine text, parts.1, Or.inl ⟨rfl, marked⟩,
          (splitAtFirst_eq_some_iff _ _ _ _).mp split⟩
      · intro given
        rcases given with ⟨line, before, ⟨equal, _⟩ | ⟨unmarked, _⟩, occurrence⟩
        · rw [equal, ← splitAtFirst_eq_some_iff, split, Option.some.injEq] at occurrence
          rw [occurrence]
        · exact absurd marked unmarked
  | none =>
      have unmarked := (splitAtFirst_eq_none_iff _ _).mp split
      simp only [Option.bind_eq_some_iff, afterWordMark?_eq_some_iff]
      constructor
      · intro given
        obtain ⟨line, second, word, before, occurrence⟩ := given
        exact ⟨line, before, Or.inr ⟨unmarked, second, word⟩, occurrence⟩
      · intro given
        rcases given with ⟨line, before, ⟨_, marked⟩ | ⟨_, second, word⟩, occurrence⟩
        · exact absurd marked unmarked
        · exact ⟨line, second, word, before, occurrence⟩

/-- A line that announces a crash has a first mark. -/
theorem crashMessage?_eq_none_iff (text : List Char) :
    crashMessage? text = none ↔ ¬ ∃ line, CrashLine text line := by
  have split (line : List Char) (crash : CrashLine text line) :
      ∃ before after, FirstOccurrence crashMark line before after := by
    have marked : crashMark <:+: line := by
      rcases crash with ⟨equal, marked⟩ | ⟨_, _, word, rest, _, equal⟩
      · rwa [equal]
      · exact ⟨word, rest, equal.symm⟩
    cases found : splitAtFirst crashMark line with
    | none => exact absurd marked ((splitAtFirst_eq_none_iff _ _).mp found)
    | some parts => exact ⟨parts.1, parts.2, (splitAtFirst_eq_some_iff _ _ _ _).mp found⟩
  rw [Option.eq_none_iff_forall_ne_some]
  constructor
  · intro silent given
    obtain ⟨line, crash⟩ := given
    obtain ⟨before, after, occurrence⟩ := split line crash
    exact silent after
      ((crashMessage?_eq_some_iff text after).mpr ⟨line, before, crash, occurrence⟩)
  · intro silent after found
    obtain ⟨line, _, crash, _⟩ := (crashMessage?_eq_some_iff text after).mp found
    exact silent ⟨line, crash⟩

/-- Sorting looks at the crash message first and trims it. -/
theorem classify_eq_crashed_iff (text message : String) :
    classify text = .crashed message ↔
      ∃ after, crashMessage? text.toList = some after ∧ TrimmedAtEnd after message.toList := by
  rw [classify]
  cases found : crashMessage? text.toList with
  | some after =>
      simp only [Outcome.crashed.injEq, Option.some.injEq, exists_eq_left', trimmedAtEnd_iff]
      constructor
      · intro equal
        rw [← equal, String.toList_ofList]
      · intro equal
        rw [← equal, String.ofList_toList]
  | none =>
      simp only [reduceCtorEq, false_and, exists_false, iff_false]
      split
      · simp
      · split <;> simp

/-- An output is the text of a crash exactly when one of its lines announces one. -/
theorem exists_classify_eq_crashed_iff (text : String) :
    (∃ message, classify text = .crashed message) ↔ ∃ line, CrashLine text.toList line := by
  constructor
  · intro given
    obtain ⟨message, crashed⟩ := given
    obtain ⟨after, found, _⟩ := (classify_eq_crashed_iff text message).mp crashed
    obtain ⟨line, _, crash, _⟩ := (crashMessage?_eq_some_iff _ _).mp found
    exact ⟨line, crash⟩
  · intro announced
    have message : crashMessage? text.toList ≠ none := by
      rw [ne_eq, crashMessage?_eq_none_iff]
      exact not_not_intro announced
    obtain ⟨after, found⟩ := Option.ne_none_iff_exists'.mp message
    refine ⟨String.ofList (trimEnd after), (classify_eq_crashed_iff _ _).mpr ⟨after, found, ?_⟩⟩
    rw [String.toList_ofList]
    exact trimmedAtEnd_trimEnd after

/-- Only the first two lines of an output are searched for a crash. -/
theorem crashMessage?_firstTwoLines (text : List Char) :
    crashMessage? (firstTwoLines text) = crashMessage? text := by
  obtain ⟨first, second⟩ := lines_firstTwoLines text
  rw [crashMessage?_eq, crashMessage?_eq, first, second]

/-- An output is the text of a crash exactly when one of its first two lines announces one, and
the message is what follows the first mark of that line. The search pattern finds the same. -/
theorem classify_crashed_iff_crashLine (text : String) :
    ((∃ message, classify text = .crashed message) ↔ ∃ line, CrashLine text.toList line) ∧
      (∀ message, classify text = .crashed message ↔
        ∃ line before after, CrashLine text.toList line ∧
          FirstOccurrence crashMark line before after ∧ TrimmedAtEnd after message.toList) ∧
      (∀ after, crashPattern.capture? text.toList = some (some after) ↔
        ∃ line before, CrashLine text.toList line ∧
          FirstOccurrence crashMark line before after) ∧
      (crashPattern.match? text.toList = none ↔ ¬ ∃ line, CrashLine text.toList line) ∧
      ∀ message, classify text = .crashed message ↔
        classify (String.ofList (firstTwoLines text.toList)) = .crashed message := by
  refine ⟨?_, ?_, ?_, ?_, ?_⟩
  · exact exists_classify_eq_crashed_iff text
  · intro message
    rw [classify_eq_crashed_iff]
    constructor
    · intro given
      obtain ⟨after, found, trimmed⟩ := given
      obtain ⟨line, before, crash, occurrence⟩ := (crashMessage?_eq_some_iff _ _).mp found
      exact ⟨line, before, after, crash, occurrence, trimmed⟩
    · intro given
      obtain ⟨line, before, after, crash, occurrence, trimmed⟩ := given
      exact ⟨after, (crashMessage?_eq_some_iff _ _).mpr ⟨line, before, crash, occurrence⟩, trimmed⟩
  · intro after
    rw [capture?_crashPattern, ← crashMessage?_eq_some_iff]
    simp
  · rw [← crashMessage?_eq_none_iff, ← Option.map_eq_none_iff (f := Way.group)]
    change crashPattern.capture? text.toList = none ↔ _
    rw [capture?_crashPattern, Option.map_eq_none_iff]
  · intro message
    rw [classify_eq_crashed_iff, classify_eq_crashed_iff, String.toList_ofList,
      crashMessage?_firstTwoLines]

end SheetLint.Outcome
