/-
This file says which words a text holds.
-/

import Mathlib.Data.List.TakeWhile
import SheetLint.Proofs.Text.Runs

namespace SheetLint.Text

/-- The words stand in the text in this order, with white space around them. -/
inductive Spaced : List Char → List (List Char) → Prop where
  | nil {gap : List Char} (blank : ∀ character ∈ gap, isBlank character = true) : Spaced gap []
  | cons {gap word rest : List Char} {words : List (List Char)}
      (blank : ∀ character ∈ gap, isBlank character = true) (filled : word ≠ [])
      (inked : ∀ character ∈ word, isBlank character = false)
      (ends : ∀ character, rest.head? = some character → isBlank character = true)
      (later : Spaced rest words) : Spaced (gap ++ word ++ rest) (word :: words)

theorem words_append_of_blank {gap : List Char}
    (blank : ∀ character ∈ gap, isBlank character = true) (rest : List Char) :
    words (gap ++ rest) = words rest := by
  induction gap with
  | nil => rfl
  | cons character gap inductionHypothesis =>
      rw [List.forall_mem_cons] at blank
      rw [List.cons_append, words, cut_cons_separator blank.1, List.filter_cons_of_neg (by simp)]
      exact inductionHypothesis blank.2

theorem words_append_of_inked {word rest : List Char} (filled : word ≠ [])
    (inked : ∀ character ∈ word, isBlank character = false)
    (ends : ∀ character, rest.head? = some character → isBlank character = true) :
    words (word ++ rest) = word :: words rest := by
  cases rest with
  | nil =>
      have single := List.splitOnP_eq_singleton inked
      simp [words, cut_eq_splitOnP, single, filled]
  | cons character rest =>
      have blank := ends character rfl
      rw [words, cut_eq_splitOnP, List.splitOnP_append_cons_of_forall_mem inked _ blank, words,
        cut_cons_separator blank, cut_eq_splitOnP]
      simp [filled]

theorem words_of_spaced {text : List Char} {list : List (List Char)} (spaced : Spaced text list) :
    words text = list := by
  induction spaced with
  | nil blank =>
      have nothing := words_append_of_blank blank []
      rw [List.append_nil] at nothing
      exact nothing
  | cons blank filled inked ends _ inductionHypothesis =>
      rw [List.append_assoc, words_append_of_blank blank, words_append_of_inked filled inked ends,
        inductionHypothesis]

/-- White space divides the words before it from those behind it. -/
theorem words_append_cons_of_blank {character : Char} (blank : isBlank character = true)
    (front rest : List Char) :
    words (front ++ character :: rest) = words front ++ words rest := by
  rw [words, words, words, cut_eq_splitOnP, cut_eq_splitOnP, cut_eq_splitOnP,
    List.splitOnP_append_cons front rest blank, List.filter_append]

/-- Words with a blank between each two of them are the words of the text that they make up. -/
theorem words_intercalate {list : List (List Char)} (filled : ∀ word ∈ list, word ≠ [])
    (inked : ∀ word ∈ list, ∀ character ∈ word, isBlank character = false) :
    words ([' '].intercalate list) = list := by
  induction list with
  | nil => rfl
  | cons word list inductionHypothesis =>
      rw [List.forall_mem_cons] at filled inked
      have later := inductionHypothesis filled.2 inked.2
      have first : words word = [word] := by
        have alone : words (word ++ []) = word :: words [] :=
          words_append_of_inked filled.1 inked.1 (by simp)
        rwa [List.append_nil] at alone
      by_cases last : list = []
      · rw [last, List.intercalate_singleton, first]
      · rw [List.intercalate_cons_of_ne_nil last, List.append_assoc, List.singleton_append,
          words_append_cons_of_blank (by decide), first, later, List.singleton_append]

/-- Every text begins with a run of characters that pass a test and goes on with another one. -/
theorem exists_front (passes : Char → Bool) (text : List Char) :
    ∃ front rest, text = front ++ rest ∧ (∀ character ∈ front, passes character = true) ∧
      ∀ character, rest.head? = some character → passes character = false := by
  refine ⟨text.takeWhile passes, text.dropWhile passes, List.takeWhile_append_dropWhile.symm,
    fun _ => List.mem_takeWhile_imp, ?_⟩
  intro character first
  have stops := List.head?_dropWhile_not passes text
  rw [first] at stops
  simpa using stops

/-- Every text falls into words. -/
theorem exists_spaced (text : List Char) : ∃ words, Spaced text words := by
  induction size : text.length using Nat.strongRecOn generalizing text with
  | _ bound inductionHypothesis =>
      obtain ⟨gap, inner, whole, blank, begins⟩ := exists_front isBlank text
      obtain ⟨word, rest, parts, inked, ends⟩ :=
        exists_front (fun character => !isBlank character) inner
      simp only [Bool.not_eq_true', Bool.not_eq_false'] at inked ends
      rw [parts] at whole begins
      by_cases filled : word = []
      · -- what follows the gap is neither white space nor a word
        have nothing : rest = [] := by
          cases rest with
          | nil => rfl
          | cons character rest =>
              have inked := begins character (by rw [filled]; rfl)
              rw [ends character rfl] at inked
              exact absurd inked (by decide)
        rw [whole, filled, nothing, List.append_nil, List.append_nil]
        exact ⟨[], .nil blank⟩
      · have shorter : rest.length < bound := by
          have some := List.length_pos_iff.mpr filled
          rw [← size, whole, List.length_append, List.length_append]
          omega
        obtain ⟨words, later⟩ := inductionHypothesis _ shorter rest rfl
        rw [whole, ← List.append_assoc]
        exact ⟨word :: words, .cons blank filled inked ends later⟩

/-- The words of a text are those that it falls into. -/
theorem spaced_iff (text : List Char) (list : List (List Char)) :
    Spaced text list ↔ list = words text := by
  constructor
  · intro spaced
    exact (words_of_spaced spaced).symm
  · intro equal
    obtain ⟨found, spaced⟩ := exists_spaced text
    rwa [equal, words_of_spaced spaced]

/-- A word is a run of characters of the text that are not white space. -/
theorem of_mem_words {text word : List Char} (member : word ∈ words text) :
    word ≠ [] ∧ ∀ character ∈ word, isBlank character = false ∧ character ∈ text := by
  have spaced := (spaced_iff text (words text)).mpr rfl
  generalize words text = list at spaced member
  induction spaced with
  | nil blank => exact absurd member List.not_mem_nil
  | cons blank filled inked ends later inductionHypothesis =>
      rcases List.mem_cons.mp member with rfl | other
      · refine ⟨filled, fun character inside => ⟨inked character inside, ?_⟩⟩
        simp [inside]
      · obtain ⟨filled, inner⟩ := inductionHypothesis other
        refine ⟨filled, fun character inside => ?_⟩
        obtain ⟨inked, there⟩ := inner character inside
        exact ⟨inked, List.mem_append_right _ there⟩

end SheetLint.Text
