/-
This file holds the gaps, commas and brackets around the tokens of a JSON text.
-/

import SheetLint.Proofs.Json.Numbers

namespace SheetLint.Json

open SheetLint.Text

/-- The text does not go on with a character that could belong to the last token. -/
def Delimited (text : List Char) : Prop :=
  ∀ character, text.head? = some character →
    isGap character = true ∨ character = ',' ∨ character = ']' ∨ character = '\u007d'

theorem Gap.nil : Gap [] :=
  fun _ member => absurd member List.not_mem_nil

theorem Gap.append {first second : List Char} (isFirst : Gap first) (isSecond : Gap second) :
    Gap (first ++ second) := by
  intro character member
  rcases List.mem_append.mp member with inFirst | inSecond
  · exact isFirst character inFirst
  · exact isSecond character inSecond

/-- The four gap characters are none of the others that the grammar names. -/
theorem gap_ne {character : Char} (gap : isGap character = true) :
    isDigit character = false ∧ character ≠ '.' ∧ character ≠ 'e' ∧ character ≠ 'E' := by
  simp only [isGap, Bool.or_eq_true, beq_iff_eq] at gap
  rcases gap with ((equal | equal) | equal) | equal <;> rw [equal] <;> decide

theorem Delimited.endsNumber {text : List Char} (delimited : Delimited text) : EndsNumber text := by
  intro character first
  rcases delimited character first with gap | equal | equal | equal
  · exact gap_ne gap
  all_goals rw [equal]; decide

theorem delimited_cons {character : Char}
    (delimiter : character = ',' ∨ character = ']' ∨ character = '\u007d') (rest : List Char) :
    Delimited (character :: rest) := by
  intro first equal
  rw [List.head?_cons, Option.some.injEq] at equal
  rw [← equal]
  exact Or.inr delimiter

theorem Gap.append_delimited {gap rest : List Char} (isGap : Gap gap) (delimited : Delimited rest) :
    Delimited (gap ++ rest) := by
  cases gap with
  | nil => exact delimited
  | cons character gap =>
      intro first equal
      rw [List.cons_append, List.head?_cons, Option.some.injEq] at equal
      rw [← equal]
      exact Or.inl (isGap character List.mem_cons_self)

/-- A text is a gap with something else behind it. -/
theorem skipGaps_split (text : List Char) : ∃ gap, Gap gap ∧ text = gap ++ skipGaps text :=
  ⟨text.takeWhile isGap, fun _ member => List.mem_takeWhile_imp member,
    List.takeWhile_append_dropWhile.symm⟩

theorem skipGaps_append {gap : List Char} (isGap : Gap gap) (rest : List Char) :
    skipGaps (gap ++ rest) = skipGaps rest :=
  List.dropWhile_append_of_pos isGap

theorem skipGaps_cons {character : Char} (ink : isGap character = false) (rest : List Char) :
    skipGaps (character :: rest) = character :: rest := by
  rw [skipGaps, List.dropWhile_cons, ink]
  rfl

/-- Texts behind the first one stand behind commas. -/
theorem separated_cons (first : List Char) (others : List (List Char)) :
    separated (first :: others) = first ++ others.flatMap fun text => ',' :: text := by
  induction others generalizing first with
  | nil => simp [separated, List.intercalate]
  | cons second others inductionHypothesis =>
      have later := inductionHypothesis second
      rw [separated, List.intercalate] at later ⊢
      rw [List.intersperse_cons_cons, List.flatten_cons, List.flatten_cons, later]
      simp

/-- A word is read from its letters. -/
theorem readWord_append (letters : List Char) (value : Value) (rest : List Char) :
    readWord letters value (letters ++ rest) = .ok (value, rest) := by
  induction letters with
  | nil => rfl
  | cons letter letters inductionHypothesis =>
      rw [List.cons_append, readWord, if_pos (by simp), inductionHypothesis]

theorem letters_of_readWord {letters text rest : List Char} {value found : Value}
    (read : readWord letters value text = .ok (found, rest)) :
    text = letters ++ rest ∧ found = value := by
  induction letters generalizing text with
  | nil =>
      rw [readWord, Except.ok.injEq, Prod.mk.injEq] at read
      exact ⟨read.2, read.1.symm⟩
  | cons letter letters inductionHypothesis =>
      cases text with
      | nil => exact absurd read (by simp [readWord])
      | cons character text =>
          rw [readWord] at read
          split at read
          · next same =>
              obtain ⟨equal, value⟩ := inductionHypothesis read
              rw [equal, ← beq_iff_eq.mp same]
              exact ⟨rfl, value⟩
          · exact absurd read (by simp)

/-- A digit starts no other token. -/
theorem digit_starts_number {digit : Char} (decimal : isDigit digit = true) :
    isGap digit = false ∧ digit ≠ 'n' ∧ digit ≠ 't' ∧ digit ≠ 'f' ∧ digit ≠ '-' ∧ digit ≠ '"' ∧
      digit ≠ '[' ∧ digit ≠ '\u007b' ∧ digit ≠ ']' := by
  have other {character : Char} (noDigit : isDigit character = false) : digit ≠ character := by
    intro equal
    rw [equal, noDigit] at decimal
    exact Bool.noConfusion decimal
  refine ⟨?_, other rfl, other rfl, other rfl, other rfl, other rfl, other rfl, other rfl,
    other rfl⟩
  cases gap : isGap digit with
  | false => rfl
  | true => rw [(gap_ne gap).1] at decimal; exact Bool.noConfusion decimal

theorem Literal.body_eq (literal : Literal) :
    ∃ digit more, literal.body = digit :: more ∧ isDigit digit = true := by
  obtain ⟨positive, whole, fraction, exponent, filled, decimal, _, _⟩ := literal
  cases whole with
  | nil => exact absurd rfl filled
  | cons digit whole => exact ⟨digit, _, rfl, decimal digit List.mem_cons_self⟩

/-- A spelling starts with a character that is neither a gap nor the end of a list. -/
theorem head_of_spells {depth : Nat} {value : Value} {token : List Char}
    (spelled : Spells depth value token) :
    ∃ first more, token = first :: more ∧ isGap first = false ∧ first ≠ ']' := by
  cases spelled with
  | null => exact ⟨_, _, rfl, by decide, by decide⟩
  | yes => exact ⟨_, _, rfl, by decide, by decide⟩
  | no => exact ⟨_, _, rfl, by decide, by decide⟩
  | number literal value =>
      rw [Literal.text]
      split
      · obtain ⟨digit, more, equal, decimal⟩ := literal.body_eq
        obtain ⟨noGap, _, _, _, _, _, _, _, noEnd⟩ := digit_starts_number decimal
        exact ⟨digit, more, equal, noGap, noEnd⟩
      · exact ⟨_, _, rfl, by decide, by decide⟩
  | text spelled =>
      obtain ⟨forms, _, equal⟩ := spelled
      exact ⟨_, _, equal, by decide, by decide⟩
  | sequence items isGap spelled => exact ⟨_, _, rfl, by decide, by decide⟩
  | mapping entries isGap spelled => exact ⟨_, _, rfl, by decide, by decide⟩

end SheetLint.Json
