/-
This file shows that the text of a value without gaps is one of its spellings.
-/

import SheetLint.Proofs.Json.Delimiters
import SheetLint.Proofs.Json.Integers
import SheetLint.Proofs.Json.Strings

namespace SheetLint.Json

open SheetLint.Text

theorem escapeUnit_spelled :
    ∀ code < 32, SpellsUnit code
      ['0', '0', Nat.digitChar (code / 16), Nat.digitChar (code % 16)] := by
  have checked : ∀ code < 32,
      ['0', '0', Nat.digitChar (code / 16), Nat.digitChar (code % 16)].all isHexDigit = true ∧
      ofDigits 16 ['0', '0', Nat.digitChar (code / 16), Nat.digitChar (code % 16)] = code := by
    decide
  intro code small
  obtain ⟨hexadecimal, value⟩ := checked code small
  exact ⟨rfl, List.all_eq_true.mp hexadecimal, value⟩

/-- The form of a character inside a string spells it. -/
theorem spells_escapeCharacter (character : Char) :
    SpellsCharacter character (escapeCharacter character) := by
  rw [escapeCharacter]
  simp only [beq_iff_eq]
  repeat' split
  · next equal => rw [equal]; exact .letter (by decide)
  · next equal => rw [equal]; exact .letter (by decide)
  · next equal => rw [equal]; exact .letter (by decide)
  · next equal => rw [equal]; exact .letter (by decide)
  · next equal => rw [equal]; exact .letter (by decide)
  · next equal => rw [equal]; exact .letter (by decide)
  · next equal => rw [equal]; exact .letter (by decide)
  · next small => exact .unit (escapeUnit_spelled character.toNat small)
  · next noQuote noBackslash _ _ _ _ _ visible =>
      exact .plain noQuote noBackslash (Nat.le_of_not_lt visible)

theorem spells_writeString (text : String) : SpellsString text (writeString text) := by
  refine ⟨text.toList.map escapeCharacter, ?_, ?_⟩
  · rw [List.forall₂_map_right_iff, List.forall₂_same]
    exact fun character _ => spells_escapeCharacter character
  · rw [writeString, List.flatMap_def]

/-- The value can be printed so that it is read back: its numbers are whole and fit 64 bits, and
at most `depth` brackets are open at once. -/
inductive Printable : Nat → Value → Prop where
  | null {depth : Nat} : Printable depth .null
  | boolean {depth : Nat} (value : Bool) : Printable depth (.boolean value)
  | whole {depth : Nat} {value : Int} (fits : FitsWord value) :
      Printable depth (.number (.whole value))
  | text {depth : Nat} (value : String) : Printable depth (.text value)
  | sequence {depth : Nat} {items : List Value} (printable : ∀ item ∈ items, Printable depth item) :
      Printable (depth + 1) (.sequence items)
  | mapping {depth : Nat} {entries : List (String × Value)}
      (printable : ∀ entry ∈ entries, Printable depth entry.2) :
      Printable (depth + 1) (.mapping entries)

theorem compactItems_eq (items : List Value) :
    compactItems items = (items.map compact).flatMap (fun text => ',' :: text) ++ [']'] := by
  induction items with
  | nil => rfl
  | cons item items inductionHypothesis =>
      rw [compactItems, inductionHypothesis, List.map_cons, List.flatMap_cons, List.cons_append,
        List.cons_append, List.append_assoc]

/-- This is the text of an entry without gaps. -/
def compactEntry (entry : String × Value) : List Char :=
  writeString entry.1 ++ ':' :: compact entry.2

theorem compactEntries_eq (entries : List (String × Value)) :
    compactEntries entries =
      (entries.map compactEntry).flatMap (fun text => ',' :: text) ++ ['\u007d'] := by
  induction entries with
  | nil => rfl
  | cons entry entries inductionHypothesis =>
      rw [compactEntries, inductionHypothesis, List.map_cons, List.flatMap_cons, compactEntry]
      simp

theorem compact_sequence (items : List Value) :
    compact (.sequence items) = '[' :: (separated (items.map compact) ++ [']']) := by
  cases items with
  | nil => rfl
  | cons item items =>
      rw [compact, compactItems_eq, List.map_cons, separated_cons, List.append_assoc]

theorem compact_mapping (entries : List (String × Value)) :
    compact (.mapping entries) =
      '\u007b' :: (separated (entries.map compactEntry) ++ ['\u007d']) := by
  cases entries with
  | nil => rfl
  | cons entry entries =>
      rw [compact, compactEntries_eq, List.map_cons, separated_cons, compactEntry]
      simp

/-- This is a value that is spelled without gaps. -/
def Item.compact (value : Value) : Item :=
  ⟨value, [], Json.compact value, [], Gap.nil, Gap.nil⟩

theorem Item.text_compact (value : Value) : (Item.compact value).text = Json.compact value :=
  List.append_nil _

/-- This is an entry that is spelled without gaps. -/
def Entry.compact (entry : String × Value) : Entry :=
  ⟨entry.1, [], writeString entry.1, [], Item.compact entry.2, Gap.nil, Gap.nil,
    spells_writeString entry.1⟩

theorem Entry.text_compact (entry : String × Value) :
    (Entry.compact entry).text = compactEntry entry := by
  change writeString entry.1 ++ ':' :: (Item.compact entry.2).text = _
  rw [Item.text_compact, compactEntry]

/-- The text of a value without gaps spells it. -/
theorem spells_compact {depth : Nat} {value : Value} (printable : Printable depth value) :
    Spells depth value (compact value) := by
  induction printable with
  | null => exact .null
  | boolean value =>
      cases value with
      | true => exact .yes
      | false => exact .no
  | whole fits =>
      rw [compact, writeNumber, ← Literal.text_ofInt]
      exact .number _ (Literal.number?_ofInt fits)
  | text value =>
      rw [compact]
      exact .text (spells_writeString value)
  | @sequence depth items printable inductionHypothesis =>
      have spelled := @Spells.sequence depth [] (items.map Item.compact) Gap.nil
        (List.forall_mem_map.mpr inductionHypothesis)
      have values : (items.map Item.compact).map Item.value = items := by
        rw [List.map_map]
        exact List.map_id items
      have texts : (items.map Item.compact).map Item.text = items.map compact := by
        rw [List.map_map]
        exact List.map_congr_left fun item _ => Item.text_compact item
      rw [values, texts, List.nil_append] at spelled
      rw [compact_sequence]
      exact spelled
  | @mapping depth entries printable inductionHypothesis =>
      have spelled := @Spells.mapping depth [] (entries.map Entry.compact) Gap.nil
        (List.forall_mem_map.mpr inductionHypothesis)
      have pairs : (entries.map Entry.compact).map Entry.pair = entries := by
        rw [List.map_map]
        exact List.map_id entries
      have texts : (entries.map Entry.compact).map Entry.text = entries.map compactEntry := by
        rw [List.map_map]
        exact List.map_congr_left fun entry _ => Entry.text_compact entry
      rw [pairs, texts, List.nil_append] at spelled
      rw [compact_mapping]
      exact spelled

/-- The text of a printable value without gaps is a document. -/
theorem document_compact {value : Value} (printable : Printable depthLimit value) :
    Document value (compact value) :=
  ⟨Item.compact value, rfl, Item.text_compact value, spells_compact printable⟩

end SheetLint.Json
