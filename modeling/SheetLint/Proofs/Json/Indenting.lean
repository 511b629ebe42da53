/-
This file shows that the text of a value with one entry a line is one of its spellings and is read
back.
-/

import SheetLint.Proofs.Json.Printing
import SheetLint.Proofs.Json.Reading
import SheetLint.Proofs.Json.Settling

namespace SheetLint.Json

theorem gap_lineAt (depth : Nat) : Gap (lineAt depth) := by
  intro character member
  rcases List.mem_cons.mp member with feed | blank
  · rw [feed]
    rfl
  · rw [List.eq_of_mem_replicate blank]
    rfl

theorem prettyItems_eq (depth : Nat) (items : List Value) :
    prettyItems depth items =
      (items.map fun item => lineAt (depth + 1) ++ pretty (depth + 1) item).flatMap
        (fun text => ',' :: text) ++ (lineAt depth ++ [']']) := by
  induction items with
  | nil => rfl
  | cons item items inductionHypothesis =>
      rw [prettyItems, inductionHypothesis, List.map_cons, List.flatMap_cons]
      simp only [List.cons_append, List.append_assoc]

/-- This is the text of an entry on a line of its own. -/
def prettyEntry (depth : Nat) (entry : String × Value) : List Char :=
  lineAt (depth + 1) ++ (writeString entry.1 ++ ':' :: ' ' :: pretty (depth + 1) entry.2)

theorem prettyEntries_eq (depth : Nat) (entries : List (String × Value)) :
    prettyEntries depth entries =
      (entries.map (prettyEntry depth)).flatMap (fun text => ',' :: text) ++
        (lineAt depth ++ ['\u007d']) := by
  induction entries with
  | nil => rfl
  | cons entry entries inductionHypothesis =>
      rw [prettyEntries, inductionHypothesis, List.map_cons, List.flatMap_cons, prettyEntry]
      simp only [List.cons_append, List.append_assoc]

theorem pretty_sequence (depth : Nat) {items : List Value} (some : items ≠ []) :
    pretty depth (.sequence items) =
      '[' :: (separated (items.map fun item => lineAt (depth + 1) ++ pretty (depth + 1) item) ++
        (lineAt depth ++ [']'])) := by
  cases items with
  | nil => exact absurd rfl some
  | cons item items =>
      rw [pretty, prettyItems_eq, List.map_cons, separated_cons]
      simp only [List.append_assoc]

theorem pretty_mapping (depth : Nat) {entries : List (String × Value)} (some : entries ≠ []) :
    pretty depth (.mapping entries) =
      '\u007b' :: (separated (entries.map (prettyEntry depth)) ++
        (lineAt depth ++ ['\u007d'])) := by
  cases entries with
  | nil => exact absurd rfl some
  | cons entry entries =>
      rw [pretty, prettyEntries_eq, List.map_cons, separated_cons, prettyEntry]
      simp only [List.cons_append, List.append_assoc]

/-- What follows the last of some separated texts follows all of them. -/
theorem separated_concat_append (texts : List (List Char)) (last gap : List Char) :
    separated (texts ++ [last ++ gap]) = separated (texts ++ [last]) ++ gap := by
  cases texts with
  | nil => simp [separated]
  | cons first texts =>
      rw [List.cons_append, List.cons_append, separated_cons, separated_cons]
      simp

/-- This is an item with more of a gap behind it. -/
def Item.widen (item : Item) {gap : List Char} (isGap : Gap gap) : Item :=
  { item with after := item.after ++ gap, gapAfter := item.gapAfter.append isGap }

theorem Item.text_widen (item : Item) {gap : List Char} (isGap : Gap gap) :
    (item.widen isGap).text = item.text ++ gap := by
  simp [text, widen]

/-- There may be a gap before the bracket that closes a list. -/
theorem Spells.sequence_closed {depth : Nat} {gap : List Char} (items : List Item)
    (isGap : Gap gap) (spelled : ∀ item ∈ items, Spells depth item.value item.token) :
    Spells (depth + 1) (.sequence (items.map Item.value))
      ('[' :: (separated (items.map Item.text) ++ (gap ++ [']']))) := by
  rcases List.eq_nil_or_concat' items with nothing | ⟨front, last, whole⟩
  · rw [nothing]
    exact .sequence [] isGap (fun _ member => absurd member List.not_mem_nil)
  · rw [whole] at spelled ⊢
    rw [List.forall_mem_append, List.forall_mem_singleton] at spelled
    have wide := @Spells.sequence depth [] (front ++ [last.widen isGap]) Gap.nil
      (List.forall_mem_append.mpr ⟨spelled.1, List.forall_mem_singleton.mpr spelled.2⟩)
    rw [List.map_append, List.map_append, List.map_singleton, List.map_singleton,
      Item.text_widen, separated_concat_append, List.append_assoc] at wide
    rw [List.map_append, List.map_append]
    exact wide

/-- There may be a gap before the brace that closes an object. -/
theorem Spells.mapping_closed {depth : Nat} {gap : List Char} (entries : List Entry)
    (isGap : Gap gap)
    (spelled : ∀ entry ∈ entries, Spells depth entry.item.value entry.item.token) :
    Spells (depth + 1) (.mapping (entries.map Entry.pair))
      ('\u007b' :: (separated (entries.map Entry.text) ++ (gap ++ ['\u007d']))) := by
  rcases List.eq_nil_or_concat' entries with nothing | ⟨front, last, whole⟩
  · rw [nothing]
    exact .mapping [] isGap (fun _ member => absurd member List.not_mem_nil)
  · rw [whole] at spelled ⊢
    rw [List.forall_mem_append, List.forall_mem_singleton] at spelled
    let wider : Entry := { last with item := last.item.widen isGap }
    have text : wider.text = last.text ++ gap := by
      simp only [wider, Entry.text, Item.text_widen, List.append_assoc, List.cons_append]
    have wide := @Spells.mapping depth [] (front ++ [wider]) Gap.nil
      (List.forall_mem_append.mpr ⟨spelled.1, List.forall_mem_singleton.mpr spelled.2⟩)
    rw [List.map_append, List.map_append, List.map_singleton, List.map_singleton, text,
      separated_concat_append, List.append_assoc] at wide
    rw [List.map_append, List.map_append]
    exact wide

/-- This is a value that is spelled on a line of its own. -/
def Item.indented (depth : Nat) (value : Value) : Item :=
  ⟨value, lineAt (depth + 1), pretty (depth + 1) value, [], gap_lineAt (depth + 1), Gap.nil⟩

theorem Item.text_indented (depth : Nat) (value : Value) :
    (Item.indented depth value).text = lineAt (depth + 1) ++ pretty (depth + 1) value :=
  congrArg (lineAt (depth + 1) ++ ·) (List.append_nil _)

/-- This is a value that is spelled behind a blank. -/
def Item.spaced (depth : Nat) (value : Value) : Item :=
  ⟨value, [' '], pretty (depth + 1) value, [], by simp [Gap, isGap], Gap.nil⟩

/-- This is an entry that is spelled on a line of its own. -/
def Entry.indented (depth : Nat) (entry : String × Value) : Entry :=
  { Entry.compact entry with
    before := lineAt (depth + 1)
    item := Item.spaced depth entry.2
    gapBefore := gap_lineAt (depth + 1) }

theorem Entry.text_indented (depth : Nat) (entry : String × Value) :
    (Entry.indented depth entry).text = prettyEntry depth entry := by
  simp [text, indented, compact, Item.text, Item.spaced, prettyEntry]

/-- The text of a value with one entry a line spells it. -/
theorem spells_pretty {depth : Nat} {value : Value} (printable : Printable depth value)
    (level : Nat) : Spells depth value (pretty level value) := by
  induction printable generalizing level with
  | null => rw [pretty]; exact .null
  | boolean value =>
      cases value with
      | true => rw [pretty]; exact .yes
      | false => rw [pretty]; exact .no
  | whole fits =>
      rw [pretty, writeNumber, ← Literal.text_ofInt]
      exact .number _ (Literal.number?_ofInt fits)
  | text value =>
      rw [pretty]
      exact .text (spells_writeString value)
  | @sequence depth items printable inductionHypothesis =>
      by_cases nothing : items = []
      · rw [nothing, pretty]
        exact .sequence [] Gap.nil (fun _ member => absurd member List.not_mem_nil)
      · have spelled := Spells.sequence_closed (items.map (Item.indented level))
          (gap_lineAt level)
          (List.forall_mem_map.mpr fun item member =>
            inductionHypothesis item member (level + 1))
        have values : (items.map (Item.indented level)).map Item.value = items := by
          rw [List.map_map]
          exact List.map_id items
        rw [values, List.map_map] at spelled
        rw [pretty_sequence level nothing]
        simpa only [Function.comp_def, Item.text_indented] using spelled
  | @mapping depth entries printable inductionHypothesis =>
      by_cases nothing : entries = []
      · rw [nothing, pretty]
        exact .mapping [] Gap.nil (fun _ member => absurd member List.not_mem_nil)
      · have spelled := Spells.mapping_closed (entries.map (Entry.indented level))
          (gap_lineAt level)
          (List.forall_mem_map.mpr fun entry member =>
            inductionHypothesis entry member (level + 1))
        have pairs : (entries.map (Entry.indented level)).map Entry.pair = entries := by
          rw [List.map_map]
          exact List.map_id entries
        rw [pairs, List.map_map] at spelled
        rw [pretty_mapping level nothing]
        simpa only [Function.comp_def, Entry.text_indented] using spelled

/-- The text of a printable value with one entry a line is a document, also with a line feed behind
it. -/
theorem document_pretty {value : Value} (printable : Printable depthLimit value) :
    Document value (pretty 0 value ++ ['\n']) :=
  ⟨⟨value, [], pretty 0 value, ['\n'], Gap.nil, gap_lineAt 0⟩, rfl, rfl,
    spells_pretty printable 0⟩

/-- A document in which no object spells a key twice is read as the value that it spells. -/
theorem read_of_document {value : Value} {text : List Char} (document : Document value text)
    (unrepeated : Unrepeated value) : read text = .ok value :=
  read_eq_ok_iff.mpr ⟨value, document, settled_of_unrepeated unrepeated⟩

end SheetLint.Json
