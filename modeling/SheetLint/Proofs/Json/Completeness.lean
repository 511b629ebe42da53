/-
This file shows that every spelling of a value is read as the value.
-/

import SheetLint.Proofs.Json.Delimiters
import SheetLint.Proofs.Json.Settling
import SheetLint.Proofs.Json.Strings

namespace SheetLint.Json

open SheetLint.Text

/-- Behind the key and the colon the value of an entry is read. -/
theorem readEntry_colon (readItem : List Char → Reading Value) {text after rest : List Char}
    {key : String} (known : readString text = .ok (key, after))
    (colon : skipGaps after = ':' :: rest) :
    readEntry readItem text = (readItem rest).map fun found => ((key, found.1), found.2) := by
  rw [readEntry, known]
  dsimp only
  rw [colon]
  cases equal : readItem rest with
  | error fault => simp only [equal]; rfl
  | ok found => simp only [equal]; rfl

section Completeness

variable {readItem : List Char → Reading Value}

/-- The reader reads a spelled value from behind a gap. -/
structure ReadsToken (readItem : List Char → Reading Value) (value : Value)
    (token : List Char) : Prop where
  head : ∃ first more, token = first :: more ∧ isGap first = false ∧ first ≠ ']'
  reads : ∀ gap rest, Gap gap → Delimited rest →
    readItem (gap ++ (token ++ rest)) = .ok (value.settled, rest)

theorem readBy_gap (list object : List Char → Reading Value) {gap : List Char} (isGap : Gap gap)
    (text : List Char) : readBy list object (gap ++ text) = readBy list object text := by
  rw [readBy, readBy, skipGaps_append isGap]

/-- A number is read behind its sign or from its first digit. -/
theorem readBy_literal (list object : List Char → Reading Value) {literal : Literal}
    {number : Number} (value : literal.number? = some number) {rest : List Char}
    (ends : EndsNumber rest) :
    readBy list object (literal.text ++ rest) = .ok (.number number, rest) := by
  have read := readNumber_of_literal value ends
  obtain ⟨digit, more, equal, decimal⟩ := literal.body_eq
  rw [Literal.text]
  cases positive : literal.positive with
  | false =>
      rw [positive] at read
      change wrap .number (readNumber false (literal.body ++ rest)) = _
      rw [read]
      rfl
  | true =>
      rw [positive, equal, List.cons_append] at read
      obtain ⟨noGap, noN, noT, noF, noMinus, noQuote, noBracket, noBrace, _⟩ :=
        digit_starts_number decimal
      rw [if_pos rfl, equal, List.cons_append, readBy, skipGaps_cons noGap]
      split
      case h_9 character behind _ _ _ _ _ _ _ same =>
        rw [List.cons.injEq] at same
        rw [← same.1, ← same.2, if_pos decimal, read]
        rfl
      all_goals simp_all

/-- The texts behind commas and the closing character delimit the token in front of them. -/
theorem delimited_flatMap (texts : List (List Char)) {last : Char}
    (delimiter : last = ',' ∨ last = ']' ∨ last = '\u007d') (rest : List Char) :
    Delimited (texts.flatMap (fun text => ',' :: text) ++ last :: rest) := by
  cases texts with
  | nil => exact delimited_cons delimiter rest
  | cons text texts => exact delimited_cons (Or.inl rfl) _

theorem Item.skipGaps_text {item : Item} {first : Char} {more : List Char}
    (token : item.token = first :: more) (ink : isGap first = false) (rest : List Char) :
    skipGaps (item.text ++ rest) = first :: (more ++ (item.after ++ rest)) := by
  rw [Item.text, List.append_assoc, skipGaps_append item.gapBefore, token, List.cons_append,
    List.cons_append, List.append_assoc, skipGaps_cons ink]

theorem Entry.skipGaps_text {entry : Entry} {body : List Char} (token : entry.token = '"' :: body)
    (rest : List Char) :
    skipGaps (entry.text ++ rest) =
      '"' :: (body ++ (entry.after ++ ':' :: (entry.item.text ++ rest))) := by
  rw [Entry.text, List.append_assoc, skipGaps_append entry.gapBefore, token, List.cons_append,
    List.cons_append, List.append_assoc, List.append_assoc, List.cons_append,
    skipGaps_cons (by decide)]

/-- Behind an item the others are read up to the bracket. -/
theorem readMoreItems_of_spells {items : List Item}
    (reads : ∀ item ∈ items, ReadsToken readItem item.value item.token) {fuel : Nat}
    (enough : items.length < fuel) (known : List Value) {gap : List Char} (isGap : Gap gap)
    (rest : List Char) :
    readMoreItems readItem fuel known
        (gap ++ ((items.map Item.text).flatMap (fun text => ',' :: text) ++ ']' :: rest)) =
      .ok (known.reverse ++ items.map fun item => item.value.settled, rest) := by
  -- The gap behind an item is what the next round skips, so the gap is generalised too.
  induction items generalizing fuel known gap with
  | nil =>
      cases fuel with
      | zero => exact absurd enough (Nat.not_lt_zero _)
      | succ fuel =>
          have skipped := skipGaps_cons (show Json.isGap ']' = false by decide) rest
          rw [readMoreItems, skipGaps_append isGap, List.map_nil, List.flatMap_nil,
            List.nil_append, skipped, List.map_nil, List.append_nil]
          rfl
  | cons item others inductionHypothesis =>
      cases fuel with
      | zero => exact absurd enough (Nat.not_lt_zero _)
      | succ fuel =>
          obtain ⟨⟨first, more, token, ink, noEnd⟩, read⟩ := reads item List.mem_cons_self
          have delimited := item.gapAfter.append_delimited (delimited_flatMap (others.map Item.text)
            (Or.inr (Or.inl rfl)) rest)
          have value := read [] _ Gap.nil delimited
          rw [token, List.nil_append, List.cons_append] at value
          have later := inductionHypothesis
            (fun other member => reads other (List.mem_cons_of_mem _ member))
            (Nat.lt_of_succ_lt_succ enough) (item.value.settled :: known) item.gapAfter
          rw [readMoreItems, skipGaps_append isGap, List.map_cons, List.flatMap_cons,
            List.cons_append, List.cons_append, List.append_assoc, skipGaps_cons (by decide)]
          simp only [Item.skipGaps_text token ink]
          split
          · next empty => exact absurd empty (List.cons_ne_nil _ _)
          · next same => exact absurd (List.cons.inj same).1 noEnd
          · rw [value, List.map_cons]
            rw [List.reverse_cons, List.append_assoc] at later
            exact later

/-- There are at most as many texts as characters behind commas. -/
theorem length_le_flatMap (texts : List (List Char)) :
    texts.length ≤ (texts.flatMap fun text => ',' :: text).length := by
  induction texts with
  | nil => exact Nat.le_refl _
  | cons text texts inductionHypothesis =>
      rw [List.flatMap_cons, List.length_append, List.length_cons, List.length_cons]
      omega

/-- The items of a list are read up to the bracket. -/
theorem readItems_of_spells {items : List Item}
    (reads : ∀ item ∈ items, ReadsToken readItem item.value item.token) {gap : List Char}
    (isGap : Gap gap) (rest : List Char) :
    readItems readItem (gap ++ (separated (items.map Item.text) ++ ']' :: rest)) =
      .ok (settledItems (items.map Item.value), rest) := by
  rw [settledItems_eq_map, List.map_map]
  cases items with
  | nil =>
      have skipped := skipGaps_cons (show Json.isGap ']' = false by decide) rest
      have bracket : separated (List.map Item.text []) ++ ']' :: rest = ']' :: rest := rfl
      rw [readItems, skipGaps_append isGap, bracket, skipped]
      rfl
  | cons item others =>
      obtain ⟨⟨first, more, token, ink, noEnd⟩, read⟩ := reads item List.mem_cons_self
      have delimited := item.gapAfter.append_delimited (delimited_flatMap (others.map Item.text)
        (Or.inr (Or.inl rfl)) rest)
      have value := read [] _ Gap.nil delimited
      rw [token, List.nil_append, List.cons_append] at value
      have count := length_le_flatMap (others.map Item.text)
      rw [List.length_map] at count
      have later (fuel : Nat) (enough : others.length < fuel) := readMoreItems_of_spells
        (fun other member => reads other (List.mem_cons_of_mem _ member))
        enough [item.value.settled] item.gapAfter rest
      rw [readItems, skipGaps_append isGap, List.map_cons, separated_cons, List.append_assoc]
      simp only [Item.skipGaps_text token ink]
      split
      · next empty => exact absurd empty (List.cons_ne_nil _ _)
      · next same => exact absurd (List.cons.inj same).1 noEnd
      · rw [value]
        refine later _ ?_
        simp only [List.length_cons, List.length_append]
        omega

/-- Behind its opening quote an entry is read as its key and its value. -/
theorem readEntry_of_spells {entry : Entry}
    (reads : ReadsToken readItem entry.item.value entry.item.token) :
    ∃ body, entry.token = '"' :: body ∧ ∀ rest, Delimited rest →
      readEntry readItem (body ++ (entry.after ++ ':' :: (entry.item.text ++ rest))) =
        .ok ((entry.key, entry.item.value.settled), entry.item.after ++ rest) := by
  obtain ⟨body, equal, _⟩ := readString_of_spells entry.spelled []
  refine ⟨body, equal, fun rest delimited => ?_⟩
  obtain ⟨same, sameEqual, key⟩ :=
    readString_of_spells entry.spelled (entry.after ++ ':' :: (entry.item.text ++ rest))
  rw [equal, List.cons.injEq] at sameEqual
  have value := reads.reads entry.item.before (entry.item.after ++ rest) entry.item.gapBefore
    (entry.item.gapAfter.append_delimited delimited)
  rw [sameEqual.2, readEntry_colon readItem key
    (by rw [skipGaps_append entry.gapAfter, skipGaps_cons (by decide)]), Item.text,
    List.append_assoc, List.append_assoc, value]
  rfl

/-- Behind an entry the others are read up to the brace. -/
theorem readMoreEntries_of_spells {entries : List Entry}
    (reads : ∀ entry ∈ entries, ReadsToken readItem entry.item.value entry.item.token) {fuel : Nat}
    (enough : entries.length < fuel) (known : List (String × Value)) {gap : List Char}
    (isGap : Gap gap) (rest : List Char) :
    readMoreEntries readItem fuel known
        (gap ++ ((entries.map Entry.text).flatMap (fun text => ',' :: text) ++ '\u007d' :: rest)) =
      .ok (settledEntries known (entries.map Entry.pair), rest) := by
  induction entries generalizing fuel known gap with
  | nil =>
      cases fuel with
      | zero => exact absurd enough (Nat.not_lt_zero _)
      | succ fuel =>
          have skipped := skipGaps_cons (show Json.isGap '\u007d' = false by decide) rest
          rw [readMoreEntries, skipGaps_append isGap, List.map_nil, List.flatMap_nil,
            List.nil_append, skipped]
          rfl
  | cons entry others inductionHypothesis =>
      cases fuel with
      | zero => exact absurd enough (Nat.not_lt_zero _)
      | succ fuel =>
          obtain ⟨body, token, read⟩ := readEntry_of_spells (reads entry List.mem_cons_self)
          have value := read _ (delimited_flatMap (others.map Entry.text)
            (Or.inr (Or.inr rfl)) rest)
          have later := inductionHypothesis
            (fun other member => reads other (List.mem_cons_of_mem _ member))
            (Nat.lt_of_succ_lt_succ enough)
            (put entry.key entry.item.value.settled known) entry.item.gapAfter
          rw [readMoreEntries, skipGaps_append isGap, List.map_cons, List.flatMap_cons,
            List.cons_append, List.cons_append, List.append_assoc, skipGaps_cons (by decide)]
          simp only [Entry.skipGaps_text token]
          rw [value]
          exact later

/-- The entries of an object are read up to the brace. -/
theorem readEntries_of_spells {entries : List Entry}
    (reads : ∀ entry ∈ entries, ReadsToken readItem entry.item.value entry.item.token)
    {gap : List Char} (isGap : Gap gap) (rest : List Char) :
    readEntries readItem (gap ++ (separated (entries.map Entry.text) ++ '\u007d' :: rest)) =
      .ok (settledEntries [] (entries.map Entry.pair), rest) := by
  cases entries with
  | nil =>
      have skipped := skipGaps_cons (show Json.isGap '\u007d' = false by decide) rest
      have brace : separated (List.map Entry.text []) ++ '\u007d' :: rest = '\u007d' :: rest := rfl
      rw [readEntries, skipGaps_append isGap, brace, skipped]
      rfl
  | cons entry others =>
      obtain ⟨body, token, read⟩ := readEntry_of_spells (reads entry List.mem_cons_self)
      have value := read _ (delimited_flatMap (others.map Entry.text) (Or.inr (Or.inr rfl)) rest)
      have count := length_le_flatMap (others.map Entry.text)
      rw [List.length_map] at count
      have later (fuel : Nat) (enough : others.length < fuel) := readMoreEntries_of_spells
        (fun other member => reads other (List.mem_cons_of_mem _ member))
        enough [(entry.key, entry.item.value.settled)] entry.item.gapAfter rest
      rw [readEntries, skipGaps_append isGap, List.map_cons, separated_cons, List.append_assoc]
      simp only [Entry.skipGaps_text token]
      rw [value]
      refine later _ ?_
      simp only [List.length_cons, List.length_append]
      omega

end Completeness

/-- Values of every depth are read by their first character. -/
theorem readValue_eq_readBy (depth : Nat) :
    ∃ list object, readValue depth = readBy list object := by
  cases depth with
  | zero => exact ⟨_, _, rfl⟩
  | succ depth => exact ⟨_, _, rfl⟩

theorem readsToken_of_spells {depth : Nat} {value : Value} {token : List Char}
    (spelled : Spells depth value token) : ReadsToken (readValue depth) value token := by
  refine ⟨head_of_spells spelled, ?_⟩
  induction spelled with
  | null =>
      intro gap rest isGap _
      obtain ⟨list, object, equal⟩ := readValue_eq_readBy _
      rw [equal, readBy_gap list object isGap, readBy, List.cons_append,
        skipGaps_cons (by decide)]
      exact readWord_append ['u', 'l', 'l'] .null rest
  | yes =>
      intro gap rest isGap _
      obtain ⟨list, object, equal⟩ := readValue_eq_readBy _
      rw [equal, readBy_gap list object isGap, readBy, List.cons_append,
        skipGaps_cons (by decide)]
      exact readWord_append ['r', 'u', 'e'] (.boolean true) rest
  | no =>
      intro gap rest isGap _
      obtain ⟨list, object, equal⟩ := readValue_eq_readBy _
      rw [equal, readBy_gap list object isGap, readBy, List.cons_append,
        skipGaps_cons (by decide)]
      exact readWord_append ['a', 'l', 's', 'e'] (.boolean false) rest
  | number literal value =>
      intro gap rest isGap delimited
      obtain ⟨list, object, equal⟩ := readValue_eq_readBy _
      rw [equal, readBy_gap list object isGap]
      exact readBy_literal list object value delimited.endsNumber
  | text spelled =>
      intro gap rest isGap _
      obtain ⟨list, object, equal⟩ := readValue_eq_readBy _
      obtain ⟨body, token, read⟩ := readString_of_spells spelled rest
      rw [equal, readBy_gap list object isGap, readBy, token, List.cons_append,
        skipGaps_cons (by decide)]
      change wrap .text (readString (body ++ rest)) = _
      rw [read]
      rfl
  | sequence items isGap spelled inductionHypothesis =>
      intro gap rest isFront _
      have read := readItems_of_spells
        (fun item member => ⟨head_of_spells (spelled item member), inductionHypothesis item member⟩)
        isGap rest
      rw [readValue, readBy_gap _ _ isFront, readBy, List.cons_append, skipGaps_cons (by decide)]
      change wrap .sequence (readItems _ _) = _
      rw [List.append_assoc, List.append_assoc, List.cons_append, List.nil_append, read]
      rfl
  | mapping entries isGap spelled inductionHypothesis =>
      intro gap rest isFront _
      have read := readEntries_of_spells
        (fun entry member =>
          ⟨head_of_spells (spelled entry member), inductionHypothesis entry member⟩)
        isGap rest
      rw [readValue, readBy_gap _ _ isFront, readBy, List.cons_append, skipGaps_cons (by decide)]
      change wrap .mapping (readEntries _ _) = _
      rw [List.append_assoc, List.append_assoc, List.cons_append, List.nil_append, read]
      rfl

end SheetLint.Json
