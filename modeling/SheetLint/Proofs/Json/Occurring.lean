/-
This file shows that a mark occurs in a printed value only where one of its strings holds it.
-/

import SheetLint.Proofs.Json.Printing
import SheetLint.Proofs.Text.Occurring

namespace SheetLint.Json

open SheetLint.Text

/-- These are the characters of brackets, words, numbers and escape sequences. -/
def syntaxCharacters : List Char :=
  ['[', ']', '\u007b', '\u007d', ',', ':', '"', '\\', '-', '0', '1', '2', '3', '4', '5', '6', '7',
   '8', '9', 'a', 'b', 'c', 'd', 'e', 'f', 'l', 'n', 'r', 's', 't', 'u']

theorem mem_syntaxCharacters_of_isDigit {digit : Char} (decimal : isDigit digit = true) :
    digit ∈ syntaxCharacters := by
  have checked : ∀ code < 58, 48 ≤ code → Char.ofNat code ∈ syntaxCharacters := by decide
  simp only [isDigit, Bool.and_eq_true, decide_eq_true_eq] at decimal
  have lower : 48 ≤ digit.toNat := decimal.1
  have upper : digit.toNat ≤ 57 := decimal.2
  rw [← Char.ofNat_toNat digit]
  exact checked digit.toNat (by omega) lower

/-- The mark is written as it is inside a string, and starts with no character of the syntax. -/
structure StringMark (start : Char) (more : List Char) : Prop where
  literal : ∀ character ∈ start :: more, escapeCharacter character = [character]
  noSyntax : start ∉ syntaxCharacters

/-- A character is either written as it is or as an escape sequence behind a backslash. -/
theorem escapeCharacter_cases (character : Char) :
    escapeCharacter character = [character] ∨
      ∃ more, escapeCharacter character = '\\' :: more ∧
        '\\' :: more ⊆ syntaxCharacters := by
  have digits : ∀ code < 32, ['\\', 'u', '0', '0', Nat.digitChar (code / 16),
      Nat.digitChar (code % 16)] ⊆ syntaxCharacters := by decide
  rw [escapeCharacter]
  repeat' split
  · exact Or.inr ⟨_, rfl, by decide⟩
  · exact Or.inr ⟨_, rfl, by decide⟩
  · exact Or.inr ⟨_, rfl, by decide⟩
  · exact Or.inr ⟨_, rfl, by decide⟩
  · exact Or.inr ⟨_, rfl, by decide⟩
  · exact Or.inr ⟨_, rfl, by decide⟩
  · exact Or.inr ⟨_, rfl, by decide⟩
  · next small => exact Or.inr ⟨_, rfl, digits character.toNat small⟩
  · exact Or.inl rfl

/-- A text that starts with literal characters when it is escaped starts with them anyway. -/
theorem prefix_of_prefix_escaped {mark text : List Char}
    (literal : ∀ character ∈ mark, escapeCharacter character = [character])
    (found : mark <+: text.flatMap escapeCharacter) : mark <+: text := by
  induction mark generalizing text with
  | nil => exact List.nil_prefix
  | cons first more inductionHypothesis =>
      cases text with
      | nil => exact absurd (List.prefix_nil.mp found) (List.cons_ne_nil _ _)
      | cons character text =>
          rw [List.flatMap_cons] at found
          rcases escapeCharacter_cases character with same | ⟨escape, equal, _⟩
          · rw [same, List.cons_append, List.nil_append, List.cons_prefix_cons] at found
            rw [List.cons_prefix_cons]
            exact ⟨found.1, inductionHypothesis
              (fun other member => literal other (List.mem_cons_of_mem _ member)) found.2⟩
          · rw [equal, List.cons_append, List.cons_prefix_cons] at found
            have isLiteral := literal first List.mem_cons_self
            rw [found.1] at isLiteral
            exact absurd isLiteral (by decide)

variable {start : Char} {more : List Char}

theorem occursIn_of_syntax (noSyntax : start ∉ syntaxCharacters) {text : List Char}
    (isSyntax : text ⊆ syntaxCharacters) : OccursIn (start :: more) text False :=
  occursIn_of_not_mem fun member => noSyntax (isSyntax member)

/-- Escaping neither makes nor breaks a mark. -/
theorem StringMark.infix_escaped_iff (mark : StringMark start more) (text : List Char) :
    start :: more <:+: text.flatMap escapeCharacter ↔ start :: more <:+: text := by
  constructor
  · intro found
    induction text with
    | nil => exact found
    | cons character text inductionHypothesis =>
        rcases escapeCharacter_cases character with same | ⟨escape, equal, isSyntax⟩
        · have whole := found
          rw [List.flatMap_cons, same, List.cons_append, List.nil_append,
            List.infix_cons_iff] at found
          rcases found with atFront | later
          · refine List.IsPrefix.isInfix (prefix_of_prefix_escaped mark.literal ?_)
            rw [List.flatMap_cons, same]
            exact atFront
          · exact List.infix_cons (inductionHypothesis later)
        · have absent : start ∉ '\\' :: escape :=
            fun member => mark.noSyntax (isSyntax member)
          rw [List.flatMap_cons, equal, occursIn_of_not_mem absent, false_or] at found
          exact List.infix_cons (inductionHypothesis found)
  · intro given
    obtain ⟨before, after, equal⟩ := given
    have itself : (start :: more).flatMap escapeCharacter = start :: more := by
      rw [List.flatMap_def, List.map_congr_left mark.literal, ← List.flatMap_def,
        List.flatMap_singleton']
    rw [← equal, List.flatMap_append, List.flatMap_append, itself]
    exact List.infix_append _ _ _

theorem StringMark.occursIn_writeString (mark : StringMark start more) (text : String) :
    OccursIn (start :: more) (writeString text) (start :: more <:+: text.toList) := by
  have noQuote : '"' ∉ start :: more :=
    fun member => absurd (mark.literal '"' member) (by decide)
  have quote : OccursIn (start :: more) ['"'] False :=
    occursIn_of_syntax mark.noSyntax (by decide)
  have inside := occursIn_of_stop noQuote (text.toList.flatMap escapeCharacter)
  exact (quote.append inside).congr (by rw [false_or, mark.infix_escaped_iff])

/-- A printed string has no line feed. -/
theorem occursIn_writeString_lineFeed (text : String) :
    OccursIn ['\n'] (writeString text) False := by
  refine occursIn_of_not_mem fun member => ?_
  rw [writeString, List.mem_cons, List.mem_append, List.mem_flatMap] at member
  rcases member with quote | ⟨character, _, inside⟩ | quote
  · exact absurd quote (by decide)
  · rcases escapeCharacter_cases character with same | ⟨escape, equal, isSyntax⟩
    · rw [same, List.mem_singleton] at inside
      rw [← inside] at same
      exact absurd same (by decide)
    · rw [equal] at inside
      exact absurd (isSyntax inside) (by decide)
  · exact absurd quote (by decide)

theorem occursIn_writeInteger (noSyntax : start ∉ syntaxCharacters) (value : Int) :
    OccursIn (start :: more) (writeInteger value) False := by
  have digits := (toDigits_decimal value.natAbs).1
  refine occursIn_of_syntax noSyntax ?_
  intro character member
  rw [writeInteger] at member
  split at member
  · rcases List.mem_cons.mp member with minus | isDigit
    · rw [minus]
      decide
    · exact mem_syntaxCharacters_of_isDigit (digits character isDigit)
  · exact mem_syntaxCharacters_of_isDigit (digits character member)

/-- The value holds the string as a text or as a key. -/
inductive Contains (string : String) : Value → Prop where
  | text : Contains string (.text string)
  | item {items : List Value} {item : Value} (member : item ∈ items)
      (inside : Contains string item) : Contains string (.sequence items)
  | key {entries : List (String × Value)} {value : Value} (member : (string, value) ∈ entries) :
      Contains string (.mapping entries)
  | entry {entries : List (String × Value)} {entry : String × Value} (member : entry ∈ entries)
      (inside : Contains string entry.2) : Contains string (.mapping entries)

/-- A string of the value meets the condition. -/
def Holds (condition : String → Prop) (value : Value) : Prop :=
  ∃ string, Contains string value ∧ condition string

theorem holds_text_iff (condition : String → Prop) (text : String) :
    Holds condition (.text text) ↔ condition text := by
  constructor
  · intro given
    obtain ⟨string, inside, marked⟩ := given
    cases inside
    exact marked
  · exact fun marked => ⟨text, .text, marked⟩

theorem holds_sequence_iff (condition : String → Prop) (items : List Value) :
    Holds condition (.sequence items) ↔ ∃ item ∈ items, Holds condition item := by
  constructor
  · intro given
    obtain ⟨string, inside, marked⟩ := given
    cases inside with
    | item member inside => exact ⟨_, member, string, inside, marked⟩
  · intro given
    obtain ⟨item, member, string, inside, marked⟩ := given
    exact ⟨string, .item member inside, marked⟩

theorem holds_mapping_iff (condition : String → Prop) (entries : List (String × Value)) :
    Holds condition (.mapping entries) ↔
      ∃ entry ∈ entries, condition entry.1 ∨ Holds condition entry.2 := by
  constructor
  · intro given
    obtain ⟨string, inside, marked⟩ := given
    cases inside with
    | key member => exact ⟨_, member, Or.inl marked⟩
    | entry member inside => exact ⟨_, member, Or.inr ⟨string, inside, marked⟩⟩
  · intro given
    rcases given with ⟨entry, member, marked | ⟨string, inside, marked⟩⟩
    · exact ⟨entry.1, .key member, marked⟩
    · exact ⟨string, .entry member inside, marked⟩

/-- Values without strings meet no condition. -/
theorem not_holds_null (condition : String → Prop) : ¬ Holds condition .null := by
  intro given
  obtain ⟨string, inside, _⟩ := given
  cases inside

theorem not_holds_boolean (condition : String → Prop) (value : Bool) :
    ¬ Holds condition (.boolean value) := by
  intro given
  obtain ⟨string, inside, _⟩ := given
  cases inside

theorem not_holds_number (condition : String → Prop) (number : Number) :
    ¬ Holds condition (.number number) := by
  intro given
  obtain ⟨string, inside, _⟩ := given
  cases inside

/-- Pieces between commas hold the mark when one of them does. -/
theorem occursIn_separated (noSyntax : start ∉ syntaxCharacters) {Piece : Type}
    {pieces : List Piece} {write : Piece → List Char} {condition : Piece → Prop}
    (occurs : ∀ piece ∈ pieces, OccursIn (start :: more) (write piece) (condition piece)) :
    OccursIn (start :: more) (separated (pieces.map write))
      (∃ piece ∈ pieces, condition piece) := by
  cases pieces with
  | nil => exact (occursIn_of_not_mem List.not_mem_nil).congr (iff_of_false id (by simp))
  | cons piece pieces =>
      have noComma : start ≠ ',' := by
        intro equal
        exact noSyntax (equal ▸ by decide)
      have first := occurs piece List.mem_cons_self
      have later := occursIn_flatMap noComma fun piece member =>
        occurs piece (List.mem_cons_of_mem _ member)
      rw [List.map_cons, separated_cons]
      exact (first.append later).congr (by simp)

/-- A mark occurs in the text of a value exactly when it occurs in one of its printed strings. -/
theorem occursIn_compact (noSyntax : start ∉ syntaxCharacters) {condition : String → Prop}
    (strings : ∀ string, OccursIn (start :: more) (writeString string) (condition string))
    {depth : Nat} {value : Value} (printable : Printable depth value) :
    OccursIn (start :: more) (compact value) (Holds condition value) := by
  have piece {text : List Char} (isSyntax : text ⊆ syntaxCharacters) :
      OccursIn (start :: more) text False := occursIn_of_syntax noSyntax isSyntax
  induction printable with
  | null => exact (piece (by decide)).congr (iff_of_false id (not_holds_null condition))
  | boolean value =>
      have isSyntax : compact (.boolean value) ⊆ syntaxCharacters := by
        cases value <;> decide
      exact (piece isSyntax).congr (iff_of_false id (not_holds_boolean condition value))
  | whole fits =>
      rw [compact, writeNumber]
      exact (occursIn_writeInteger noSyntax _).congr
        (iff_of_false id (not_holds_number condition _))
  | text value =>
      rw [compact]
      exact (strings value).congr (holds_text_iff condition value).symm
  | @sequence depth items printable inductionHypothesis =>
      have inside := occursIn_separated noSyntax inductionHypothesis
      have opening : OccursIn (start :: more) ['['] False := piece (by decide)
      have closing : OccursIn (start :: more) [']'] False := piece (by decide)
      rw [compact_sequence]
      exact (opening.append (inside.append closing)).congr (by simp [holds_sequence_iff])
  | @mapping depth entries printable inductionHypothesis =>
      have pieces : ∀ entry ∈ entries, OccursIn (start :: more) (compactEntry entry)
          (condition entry.1 ∨ Holds condition entry.2) := by
        intro entry member
        have colon : OccursIn (start :: more) [':'] False := piece (by decide)
        have whole := (strings entry.1).append (colon.append (inductionHypothesis entry member))
        exact whole.congr (by rw [false_or])
      have inside := occursIn_separated noSyntax pieces
      have opening : OccursIn (start :: more) ['\u007b'] False := piece (by decide)
      have closing : OccursIn (start :: more) ['\u007d'] False := piece (by decide)
      rw [compact_mapping]
      exact (opening.append (inside.append closing)).congr (by simp [holds_mapping_iff])

/-- A mark occurs in the text of a value exactly when one of its strings holds the mark. -/
theorem StringMark.infix_compact_iff (mark : StringMark start more) {depth : Nat} {value : Value}
    (printable : Printable depth value) :
    start :: more <:+: compact value ↔
      Holds (fun string => start :: more <:+: string.toList) value :=
  (occursIn_compact mark.noSyntax mark.occursIn_writeString printable).infix_iff
    (List.cons_ne_nil _ _)

/-- The text of a value without gaps is a single line. -/
theorem lineFeed_not_mem_compact {depth : Nat} {value : Value} (printable : Printable depth value) :
    '\n' ∉ compact value := by
  have occurs := occursIn_compact (by decide) occursIn_writeString_lineFeed printable
  intro member
  obtain ⟨before, after, equal⟩ := List.append_of_mem member
  have found : ['\n'] <:+: compact value := ⟨before, after, by rw [equal]; simp⟩
  obtain ⟨_, _, impossible⟩ := (occurs.infix_iff (List.cons_ne_nil _ _)).mp found
  exact impossible

end SheetLint.Json
