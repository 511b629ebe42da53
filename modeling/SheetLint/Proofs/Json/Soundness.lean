/-
This file shows that a value is only read from one of its spellings.
-/

import SheetLint.Proofs.Json.Delimiters
import SheetLint.Proofs.Json.Settling
import SheetLint.Proofs.Json.Strings

namespace SheetLint.Json

open SheetLint.Text

section Soundness

/-- What was read stands in front of the rest, behind a gap, as a spelling of the value. -/
def SpelledIn (depth : Nat) (value : Value) (text rest : List Char) : Prop :=
  ∃ gap raw token, Gap gap ∧ text = gap ++ (token ++ rest) ∧ Spells depth raw token ∧
    raw.settled = value

variable {readItem : List Char → Reading Value} {depth : Nat}
  (sound : ∀ text value rest, readItem text = .ok (value, rest) → SpelledIn depth value text rest)

include sound

theorem spells_of_readMoreItems {fuel : Nat} {known values : List Value} {text rest : List Char}
    (read : readMoreItems readItem fuel known text = .ok (values, rest)) :
    ∃ gap, ∃ items : List Item, Gap gap ∧
      text = gap ++ ((items.map Item.text).flatMap (fun text => ',' :: text) ++ ']' :: rest) ∧
      (∀ item ∈ items, Spells depth item.value item.token) ∧
      values = known.reverse ++ items.map fun item => item.value.settled := by
  -- The gap that a round skips in front of a comma is the one behind the item before it.
  induction fuel generalizing known text with
  | zero => exact absurd read (by simp [readMoreItems])
  | succ fuel inductionHypothesis =>
      obtain ⟨gap, isGap, equal⟩ := skipGaps_split text
      rw [readMoreItems] at read
      split at read
      · exact absurd read (by simp)
      · next bracket =>
          rw [Except.ok.injEq, Prod.mk.injEq] at read
          rw [bracket, read.2] at equal
          exact ⟨gap, [], isGap, equal, fun _ member => absurd member List.not_mem_nil,
            by rw [← read.1]; simp⟩
      · next behind comma =>
          obtain ⟨before, isBefore, behindEqual⟩ := skipGaps_split behind
          split at read
          · exact absurd read (by simp)
          · exact absurd read (by simp)
          · split at read
            · exact absurd read (by simp)
            · next item left found =>
                obtain ⟨more, raw, token, isMore, itemEqual, spelled, settled⟩ :=
                  sound _ _ _ found
                obtain ⟨after, items, isAfter, leftEqual, itemsSpelled, all⟩ :=
                  inductionHypothesis read
                refine ⟨gap, ⟨raw, before ++ more, token, after, isBefore.append isMore, isAfter⟩ ::
                  items, isGap, ?_, ?_, ?_⟩
                · rw [equal, comma, behindEqual, itemEqual, leftEqual]
                  simp [Item.text]
                · intro item member
                  rcases List.mem_cons.mp member with first | later
                  · rw [first]
                    exact spelled
                  · exact itemsSpelled item later
                · rw [all, ← settled]
                  simp
      · exact absurd read (by simp)

theorem spells_of_readItems {values : List Value} {text rest : List Char}
    (read : readItems readItem text = .ok (values, rest)) :
    ∃ gap, ∃ items : List Item, Gap gap ∧
      text = gap ++ (separated (items.map Item.text) ++ ']' :: rest) ∧
      (∀ item ∈ items, Spells depth item.value item.token) ∧
      values = settledItems (items.map Item.value) := by
  obtain ⟨gap, isGap, equal⟩ := skipGaps_split text
  rw [readItems] at read
  split at read
  · exact absurd read (by simp)
  · next bracket =>
      rw [Except.ok.injEq, Prod.mk.injEq] at read
      rw [bracket, read.2] at equal
      exact ⟨gap, [], isGap, equal, fun _ member => absurd member List.not_mem_nil, read.1.symm⟩
  · split at read
    · exact absurd read (by simp)
    · next item left found =>
        obtain ⟨more, raw, token, isMore, itemEqual, spelled, settled⟩ := sound _ _ _ found
        obtain ⟨after, items, isAfter, leftEqual, itemsSpelled, all⟩ :=
          spells_of_readMoreItems sound read
        refine ⟨gap, ⟨raw, more, token, after, isMore, isAfter⟩ :: items, isGap, ?_, ?_, ?_⟩
        · rw [List.map_cons, separated_cons, equal, itemEqual, leftEqual]
          simp [Item.text]
        · intro item member
          rcases List.mem_cons.mp member with first | later
          · rw [first]
            exact spelled
          · exact itemsSpelled item later
        · rw [all, settledItems_eq_map, ← settled]
          simp

/-- An entry that was read is a spelled key, a colon and a spelled value. -/
theorem spells_of_readEntry {pair : String × Value} {text rest : List Char}
    (read : readEntry readItem text = .ok (pair, rest)) :
    ∃ key after before raw token, SpellsString pair.1 key ∧ Gap after ∧ Gap before ∧
      '"' :: text = key ++ (after ++ ':' :: (before ++ (token ++ rest))) ∧
      Spells depth raw token ∧ raw.settled = pair.2 := by
  cases known : readString text with
  | error fault => exact absurd read (by simp [readEntry, known])
  | ok found =>
      obtain ⟨name, behind⟩ := found
      obtain ⟨key, keySpelled, keyEqual⟩ := spells_of_readString known
      obtain ⟨after, isAfter, behindEqual⟩ := skipGaps_split behind
      rw [readEntry, known] at read
      dsimp only at read
      split at read
      · exact absurd read (by simp)
      · next later colon =>
          split at read
          · exact absurd read (by simp)
          · next value left found =>
              rw [Except.ok.injEq, Prod.mk.injEq] at read
              obtain ⟨before, raw, token, isBefore, laterEqual, spelled, settled⟩ :=
                sound _ _ _ found
              rw [← read.1, ← read.2]
              refine ⟨key, after, before, raw, token, keySpelled, isAfter, isBefore, ?_, spelled,
                settled⟩
              rw [keyEqual, behindEqual, colon, laterEqual]
      · exact absurd read (by simp)

theorem spells_of_readMoreEntries {fuel : Nat} {known values : List (String × Value)}
    {text rest : List Char}
    (read : readMoreEntries readItem fuel known text = .ok (values, rest)) :
    ∃ gap, ∃ entries : List Entry, Gap gap ∧
      text = gap ++
        ((entries.map Entry.text).flatMap (fun text => ',' :: text) ++ '\u007d' :: rest) ∧
      (∀ entry ∈ entries, Spells depth entry.item.value entry.item.token) ∧
      values = settledEntries known (entries.map Entry.pair) := by
  induction fuel generalizing known text with
  | zero => exact absurd read (by simp [readMoreEntries])
  | succ fuel inductionHypothesis =>
      obtain ⟨gap, isGap, equal⟩ := skipGaps_split text
      rw [readMoreEntries] at read
      split at read
      · exact absurd read (by simp)
      · next brace =>
          rw [Except.ok.injEq, Prod.mk.injEq] at read
          rw [brace, read.2] at equal
          exact ⟨gap, [], isGap, equal, fun _ member => absurd member List.not_mem_nil,
            read.1.symm⟩
      · next behind comma =>
          obtain ⟨front, isFront, behindEqual⟩ := skipGaps_split behind
          split at read
          · exact absurd read (by simp)
          · exact absurd read (by simp)
          · next inside quote =>
              split at read
              · exact absurd read (by simp)
              · next pair left found =>
                  obtain ⟨key, after, before, raw, token, keySpelled, isAfter, isBefore,
                    entryEqual, spelled, settled⟩ := spells_of_readEntry sound found
                  obtain ⟨last, entries, isLast, leftEqual, entriesSpelled, all⟩ :=
                    inductionHypothesis read
                  refine ⟨gap, ⟨pair.1, front, key, after, ⟨raw, before, token, last, isBefore,
                    isLast⟩, isFront, isAfter, keySpelled⟩ :: entries, isGap, ?_, ?_, ?_⟩
                  · rw [equal, comma, behindEqual, quote, entryEqual, leftEqual]
                    simp [Entry.text, Item.text]
                  · intro entry member
                    rcases List.mem_cons.mp member with first | later
                    · rw [first]
                      exact spelled
                    · exact entriesSpelled entry later
                  · rw [all, ← settled]
                    rfl
          · exact absurd read (by simp)
      · exact absurd read (by simp)

theorem spells_of_readEntries {values : List (String × Value)} {text rest : List Char}
    (read : readEntries readItem text = .ok (values, rest)) :
    ∃ gap, ∃ entries : List Entry, Gap gap ∧
      text = gap ++ (separated (entries.map Entry.text) ++ '\u007d' :: rest) ∧
      (∀ entry ∈ entries, Spells depth entry.item.value entry.item.token) ∧
      values = settledEntries [] (entries.map Entry.pair) := by
  obtain ⟨gap, isGap, equal⟩ := skipGaps_split text
  rw [readEntries] at read
  split at read
  · exact absurd read (by simp)
  · next brace =>
      rw [Except.ok.injEq, Prod.mk.injEq] at read
      rw [brace, read.2] at equal
      exact ⟨gap, [], isGap, equal, fun _ member => absurd member List.not_mem_nil, read.1.symm⟩
  · next inside quote =>
      split at read
      · exact absurd read (by simp)
      · next pair left found =>
          obtain ⟨key, after, before, raw, token, keySpelled, isAfter, isBefore, entryEqual,
            spelled, settled⟩ := spells_of_readEntry sound found
          obtain ⟨last, entries, isLast, leftEqual, entriesSpelled, all⟩ :=
            spells_of_readMoreEntries sound read
          refine ⟨gap, ⟨pair.1, [], key, after, ⟨raw, before, token, last, isBefore, isLast⟩,
            Gap.nil, isAfter, keySpelled⟩ :: entries, isGap, ?_, ?_, ?_⟩
          · rw [List.map_cons, separated_cons, equal, quote, entryEqual, leftEqual]
            simp [Entry.text, Item.text]
          · intro entry member
            rcases List.mem_cons.mp member with first | later
            · rw [first]
              exact spelled
            · exact entriesSpelled entry later
          · rw [all, List.map_cons, Entry.pair, settledEntries, settled]
            rfl
  · exact absurd read (by simp)

end Soundness

/-- A gap in front belongs to what is skipped. -/
theorem SpelledIn.behind_gap {depth : Nat} {value : Value} {inside rest gap : List Char}
    (spelled : SpelledIn depth value inside rest) (isGap : Gap gap) :
    SpelledIn depth value (gap ++ inside) rest := by
  obtain ⟨more, raw, token, isMore, equal, rawSpelled, settled⟩ := spelled
  exact ⟨gap ++ more, raw, token, isGap.append isMore, by rw [equal, List.append_assoc], rawSpelled,
    settled⟩

theorem spelledIn_of_readWord {depth : Nat} {value constant : Value} {first : Char}
    {letters inside rest : List Char} (spelled : Spells depth constant (first :: letters))
    (settled : constant.settled = constant)
    (found : readWord letters constant inside = .ok (value, rest)) :
    SpelledIn depth value (first :: inside) rest := by
  obtain ⟨equal, same⟩ := letters_of_readWord found
  exact ⟨[], constant, _, Gap.nil, by rw [equal]; rfl, spelled, by rw [settled, same]⟩

theorem spelledIn_of_readNumber {depth : Nat} {value : Value} {positive : Bool}
    {inside rest : List Char}
    (found : wrap .number (readNumber positive inside) = .ok (value, rest)) :
    SpelledIn depth value (if positive then inside else '-' :: inside) rest := by
  cases result : readNumber positive inside with
  | error fault => exact absurd found (by simp [result, wrap])
  | ok pair =>
      rw [result, wrap, Except.ok.injEq, Prod.mk.injEq] at found
      obtain ⟨literal, sign, equal, known⟩ := literal_of_readNumber result
      refine ⟨[], .number pair.1, literal.text, Gap.nil, ?_, .number literal known, found.1⟩
      rw [equal, Literal.text, sign, ← found.2]
      cases positive <;> rfl

theorem spelledIn_of_readString {depth : Nat} {value : Value} {inside rest : List Char}
    (found : wrap .text (readString inside) = .ok (value, rest)) :
    SpelledIn depth value ('"' :: inside) rest := by
  cases result : readString inside with
  | error fault => exact absurd found (by simp [result, wrap])
  | ok pair =>
      rw [result, wrap, Except.ok.injEq, Prod.mk.injEq] at found
      obtain ⟨token, spelled, equal⟩ := spells_of_readString result
      exact ⟨[], .text pair.1, token, Gap.nil, by rw [equal, ← found.2]; rfl, .text spelled,
        found.1⟩

/-- A word, a number or a string that was read is a spelling at every depth; the two readers of
brackets account for the rest. -/
theorem spells_of_readBy {list object : List Char → Reading Value} {depth : Nat} {value : Value}
    {text rest : List Char} (read : readBy list object text = .ok (value, rest))
    (inList : ∀ inside, list inside = .ok (value, rest) →
      SpelledIn depth value ('[' :: inside) rest)
    (inObject : ∀ inside, object inside = .ok (value, rest) →
      SpelledIn depth value ('\u007b' :: inside) rest) :
    SpelledIn depth value text rest := by
  obtain ⟨gap, isGap, equal⟩ := skipGaps_split text
  rw [equal]
  apply SpelledIn.behind_gap _ isGap
  rw [readBy] at read
  split at read
  · exact absurd read (by simp)
  · next inside same => rw [same]; exact spelledIn_of_readWord .null rfl read
  · next inside same => rw [same]; exact spelledIn_of_readWord .yes rfl read
  · next inside same => rw [same]; exact spelledIn_of_readWord .no rfl read
  · next inside same => rw [same]; exact spelledIn_of_readNumber read
  · next inside same => rw [same]; exact spelledIn_of_readString read
  · next inside same => rw [same]; exact inList inside read
  · next inside same => rw [same]; exact inObject inside read
  · next character inside _ _ _ _ _ _ _ same =>
      rw [same]
      split at read
      · exact spelledIn_of_readNumber read
      · exact absurd read (by simp)

theorem spells_of_readValue {depth : Nat} {value : Value} {text rest : List Char}
    (read : readValue depth text = .ok (value, rest)) : SpelledIn depth value text rest := by
  induction depth generalizing value text rest with
  | zero =>
      rw [readValue] at read
      exact spells_of_readBy read (fun _ found => absurd found (by simp))
        (fun _ found => absurd found (by simp))
  | succ depth inductionHypothesis =>
      rw [readValue] at read
      refine spells_of_readBy read (fun inside found => ?_) (fun inside found => ?_)
      · cases result : readItems (readValue depth) inside with
        | error fault => exact absurd found (by simp [result, wrap])
        | ok pair =>
            rw [result, wrap, Except.ok.injEq, Prod.mk.injEq] at found
            obtain ⟨gap, items, isGap, insideEqual, spelled, settled⟩ :=
              spells_of_readItems (fun _ _ _ => inductionHypothesis) result
            refine ⟨[], _, _, Gap.nil, ?_, .sequence items isGap spelled, ?_⟩
            · rw [insideEqual, ← found.2]
              simp
            · rw [← found.1, settled, Value.settled]
      · cases result : readEntries (readValue depth) inside with
        | error fault => exact absurd found (by simp [result, wrap])
        | ok pair =>
            rw [result, wrap, Except.ok.injEq, Prod.mk.injEq] at found
            obtain ⟨gap, entries, isGap, insideEqual, spelled, settled⟩ :=
              spells_of_readEntries (fun _ _ _ => inductionHypothesis) result
            refine ⟨[], _, _, Gap.nil, ?_, .mapping entries isGap spelled, ?_⟩
            · rw [insideEqual, ← found.2]
              simp
            · rw [← found.1, settled, Value.settled]

end SheetLint.Json
