/-
This file shows that a report does not depend on unknown keys or on the order of distinct keys.
-/

import SheetLint.Proofs.Report.Conformance

namespace SheetLint.Report.Schema

open SheetLint.Json

/-- These are the kinds of values that a report consists of. -/
inductive Kind where
  | report
  | feedbacks
  | warnings
  | feedback
  | warning
  | other

/-- These are the fields of a record in the order of declaration, with their kinds. -/
def Kind.fields : Kind → List (String × Kind)
  | .report =>
      [("invalidOptionWarnings", .feedbacks), ("deprecations", .feedbacks), ("warnings", .warnings)]
  | .feedback => [("text", .other)]
  | .warning =>
      [("line", .other), ("column", .other), ("severity", .other), ("rule", .other),
       ("text", .other)]
  | _ => []

/-- This is the kind of the values of a key; an unknown key has none. -/
def Kind.entry? (kind : Kind) (key : String) : Option Kind :=
  kind.fields.lookup key

/-- This is the kind of the item at a place of a list. -/
def Kind.item (kind : Kind) (place : Nat) : Kind :=
  match kind with
  | .feedbacks => .feedback
  | .warnings => .warning
  | record => (record.fields[place]?).elim .other Prod.snd

/-- Two values differ only in the values of unknown keys and in the order of distinct keys, at any
depth. -/
inductive Variant : Kind → Value → Value → Prop where
  | refl {kind : Kind} (value : Value) : Variant kind value value
  | symm {kind : Kind} {first second : Value} (variant : Variant kind first second) :
      Variant kind second first
  | trans {kind : Kind} {first second third : Value} (variant : Variant kind first second)
      (further : Variant kind second third) : Variant kind first third
  | swap {kind : Kind} (before after : List (String × Value)) {first second : String × Value}
      (different : first.1 ≠ second.1) :
      Variant kind (.mapping (before ++ first :: second :: after))
        (.mapping (before ++ second :: first :: after))
  | unknown {kind : Kind} (before after : List (String × Value)) {key : String}
      (strange : kind.entry? key = none) (first second : Value) :
      Variant kind (.mapping (before ++ (key, first) :: after))
        (.mapping (before ++ (key, second) :: after))
  | entry {kind inner : Kind} (before after : List (String × Value)) {key : String}
      (known : kind.entry? key = some inner) {first second : Value}
      (variant : Variant inner first second) :
      Variant kind (.mapping (before ++ (key, first) :: after))
        (.mapping (before ++ (key, second) :: after))
  | item {kind : Kind} (before after : List Value) {first second : Value}
      (variant : Variant (kind.item before.length) first second) :
      Variant kind (.sequence (before ++ first :: after)) (.sequence (before ++ second :: after))

/-- This is what a value of each kind is decoded to. -/
def Kind.Shape : Kind → Type
  | .report => Report
  | .feedbacks => List Feedback
  | .warnings => List Warning
  | .feedback => Feedback
  | .warning => Warning
  | .other => Value

/-- Texts and numbers are the scalars that a report holds. -/
def IsScalar (value : Value) : Prop :=
  (∃ text, value = .text text) ∨ ∃ number, value = .number number

theorem isScalar_text (text : String) : IsScalar (.text text) :=
  Or.inl ⟨text, rfl⟩

theorem isScalar_number (number : Number) : IsScalar (.number number) :=
  Or.inr ⟨number, rfl⟩

/-- A value of each kind fits its shape; of the other values only texts and numbers count. -/
def Kind.Fits : (kind : Kind) → Value → kind.Shape → Prop
  | .report => ReportFits
  | .feedbacks => ListOf FeedbackFits
  | .warnings => ListOf WarningFits
  | .feedback => FeedbackFits
  | .warning => WarningFits
  | .other => fun value shape => value = shape ∧ IsScalar shape

/-- Two values fit the same shapes. -/
def Kind.Same (kind : Kind) (first second : Value) : Prop :=
  ∀ shape, kind.Fits first shape ↔ kind.Fits second shape

theorem Kind.Same.refl (kind : Kind) (value : Value) : kind.Same value value :=
  fun _ => Iff.rfl

theorem rel_of_eq (kind : Kind) {first second : Option Value} (equal : first = second) :
    Option.Rel kind.Same first second := by
  rw [equal]
  cases second with
  | none => exact .none
  | some value => exact .some (Kind.Same.refl kind value)

/-- Distinct keys may change places. -/
theorem final?_swap (key : String) (before after : List (String × Value))
    {first second : String × Value} (different : first.1 ≠ second.1) :
    final? key (before ++ first :: second :: after) =
      final? key (before ++ second :: first :: after) := by
  rw [final?_append, final?_append, final?_cons, final?_cons, final?_cons, final?_cons]
  by_cases isFirst : key = first.1
  · have noSecond : ¬ key = second.1 := fun equal => different (isFirst.symm.trans equal)
    rw [if_pos isFirst, if_neg noSecond, Option.or_none, Option.or_none]
  · rw [if_neg isFirst, Option.or_none, Option.or_none]

/-- Another value behind one key changes at most what that key finds. -/
theorem rel_final?_replace {kind : Kind} (key name : String) (before after : List (String × Value))
    {first second : Value} (same : key = name → kind.Same first second) :
    Option.Rel kind.Same (final? key (before ++ (name, first) :: after))
      (final? key (before ++ (name, second) :: after)) := by
  rw [final?_append, final?_append, final?_cons, final?_cons]
  cases final? key after with
  | some value => exact .some (Kind.Same.refl kind value)
  | none =>
      by_cases isName : key = name
      · rw [if_pos isName, if_pos isName]
        exact .some (same isName)
      · rw [if_neg isName, if_neg isName]
        exact rel_of_eq kind rfl

theorem rel_getElem?_replace {kind : Kind} (place : Nat) (before after : List Value)
    {first second : Value} (same : place = before.length → kind.Same first second) :
    Option.Rel kind.Same (before ++ first :: after)[place]?
      (before ++ second :: after)[place]? := by
  by_cases inside : place < before.length
  · rw [List.getElem?_append_left inside, List.getElem?_append_left inside]
    exact rel_of_eq kind rfl
  · have behind : before.length ≤ place := Nat.le_of_not_lt inside
    rw [List.getElem?_append_right behind, List.getElem?_append_right behind]
    cases distance : place - before.length with
    | zero => exact .some (same (Nat.le_antisymm (Nat.sub_eq_zero_iff_le.mp distance) behind))
    | succ distance => exact rel_of_eq kind rfl

theorem listOrAbsent_congr {Item : Type} {fits : Value → Item → Prop} {first second : Option Value}
    (same : Option.Rel (fun one other => ∀ items, ListOf fits one items ↔ ListOf fits other items)
      first second) (items : List Item) :
    ListOrAbsent fits first items ↔ ListOrAbsent fits second items := by
  cases same with
  | none => exact Iff.rfl
  | some agree => exact agree items

theorem scalar_congr {first second shape : Value} (scalar : IsScalar shape)
    (same : Kind.other.Same first second) : first = shape ↔ second = shape := by
  constructor
  · exact fun equal => ((same shape).mp ⟨equal, scalar⟩).1
  · exact fun equal => ((same shape).mpr ⟨equal, scalar⟩).1

theorem field_congr {first second : Option Value} {shape : Value} (scalar : IsScalar shape)
    (same : Option.Rel Kind.other.Same first second) :
    first = some shape ↔ second = some shape := by
  cases same with
  | none => exact Iff.rfl
  | some agree => rw [Option.some.injEq, Option.some.injEq, scalar_congr scalar agree]

/-- These kinds are records. -/
def Kind.HasFields (kind : Kind) : Prop :=
  kind = .report ∨ kind = .feedback ∨ kind = .warning

/-- Two records with the same fields fit the same shapes. -/
theorem same_of_fields {kind : Kind} {first second : Value} (hasFields : kind.HasFields)
    (records : ∀ count, IsRecord count first ↔ IsRecord count second)
    (same : ∀ place key inner, kind.fields[place]? = some (key, inner) →
      Option.Rel inner.Same (field? place key first) (field? place key second)) :
    kind.Same first second := by
  rcases hasFields with isReport | isFeedback | isWarning
  · subst isReport
    intro report
    have invalidOptions := listOrAbsent_congr (same 0 _ _ rfl) report.invalidOptions
    have deprecations := listOrAbsent_congr (same 1 _ _ rfl) report.deprecations
    have warnings := listOrAbsent_congr (same 2 _ _ rfl) report.warnings
    constructor
    · intro fits
      exact ⟨(records 3).mp fits.record, invalidOptions.mp fits.invalidOptions,
        deprecations.mp fits.deprecations, warnings.mp fits.warnings⟩
    · intro fits
      exact ⟨(records 3).mpr fits.record, invalidOptions.mpr fits.invalidOptions,
        deprecations.mpr fits.deprecations, warnings.mpr fits.warnings⟩
  · subst isFeedback
    intro feedback
    have text := field_congr (isScalar_text feedback.text) (same 0 _ _ rfl)
    constructor
    · exact fun fits => ⟨(records 1).mp fits.record, text.mp fits.text⟩
    · exact fun fits => ⟨(records 1).mpr fits.record, text.mpr fits.text⟩
  · subst isWarning
    intro warning
    have line := field_congr (isScalar_number (.whole warning.line.toInt)) (same 0 _ _ rfl)
    have column := field_congr (isScalar_number (.whole warning.column.toInt)) (same 1 _ _ rfl)
    have severity := field_congr (isScalar_text warning.severity) (same 2 _ _ rfl)
    have rule := field_congr (isScalar_text warning.rule) (same 3 _ _ rfl)
    have text := field_congr (isScalar_text warning.text) (same 4 _ _ rfl)
    constructor
    · intro fits
      exact ⟨(records 5).mp fits.record, line.mp fits.line, column.mp fits.column,
        severity.mp fits.severity, rule.mp fits.rule, text.mp fits.text⟩
    · intro fits
      exact ⟨(records 5).mpr fits.record, line.mpr fits.line, column.mpr fits.column,
        severity.mpr fits.severity, rule.mpr fits.rule, text.mpr fits.text⟩

/-- No key of a record is declared twice. -/
theorem entry?_of_fields {kind inner : Kind} {place : Nat} {key : String}
    (found : kind.fields[place]? = some (key, inner)) : kind.entry? key = some inner := by
  have distinct : Distinct kind.fields := by
    show (kind.fields.map Prod.fst).Nodup
    cases kind <;> decide
  exact distinct.lookup_of_mem (List.mem_of_getElem? found)

theorem item_of_fields {kind inner : Kind} (hasFields : kind.HasFields) {place : Nat} {key : String}
    (found : kind.fields[place]? = some (key, inner)) : kind.item place = inner := by
  rcases hasFields with rfl | rfl | rfl
  all_goals
    simp only [Kind.item, found]
    rfl

theorem not_isScalar_mapping (entries : List (String × Value)) : ¬ IsScalar (.mapping entries) := by
  intro given
  rcases given with ⟨text, equal⟩ | ⟨number, equal⟩
  · exact absurd equal (by simp)
  · exact absurd equal (by simp)

theorem not_isScalar_sequence (items : List Value) : ¬ IsScalar (.sequence items) := by
  intro given
  rcases given with ⟨text, equal⟩ | ⟨number, equal⟩
  · exact absurd equal (by simp)
  · exact absurd equal (by simp)

/-- No object is a list. -/
theorem not_listOf_mapping {Item : Type} (fits : Value → Item → Prop)
    (entries : List (String × Value)) (items : List Item) :
    ¬ ListOf fits (.mapping entries) items := by
  intro given
  obtain ⟨values, equal, _⟩ := given
  exact absurd equal (by simp)

/-- Objects fit the same shapes when their known keys have the same values. -/
theorem same_mapping (kind : Kind) {entries others : List (String × Value)}
    (same : ∀ key inner, kind.entry? key = some inner →
      Option.Rel inner.Same (final? key entries) (final? key others)) :
    kind.Same (.mapping entries) (.mapping others) := by
  -- An object is a record; it is neither a list of records nor a scalar.
  have ofFields (hasFields : kind.HasFields) : kind.Same (.mapping entries) (.mapping others) :=
    same_of_fields hasFields
      (fun count => iff_of_true (isRecord_mapping count entries) (isRecord_mapping count others))
      fun place key inner found => same key inner (entry?_of_fields found)
  cases kind with
  | report => exact ofFields (Or.inl rfl)
  | feedback => exact ofFields (Or.inr (Or.inl rfl))
  | warning => exact ofFields (Or.inr (Or.inr rfl))
  | feedbacks =>
      exact fun items =>
        iff_of_false (not_listOf_mapping _ entries items) (not_listOf_mapping _ others items)
  | warnings =>
      exact fun items =>
        iff_of_false (not_listOf_mapping _ entries items) (not_listOf_mapping _ others items)
  | other =>
      intro shape
      constructor
      · intro given
        obtain ⟨equal, scalar⟩ := given
        exact absurd (equal ▸ scalar) (not_isScalar_mapping entries)
      · intro given
        obtain ⟨equal, scalar⟩ := given
        exact absurd (equal ▸ scalar) (not_isScalar_mapping others)

/-- Lists with the same items at all places are lists of the same things. -/
theorem forall₂_congr_of_places {Item : Type} {fits : Value → Item → Prop}
    {values others : List Value}
    (same : ∀ place : Nat, Option.Rel (fun one other => ∀ item, fits one item ↔ fits other item)
      values[place]? others[place]?) (items : List Item) :
    List.Forall₂ fits values items ↔ List.Forall₂ fits others items := by
  induction values generalizing others items with
  | nil =>
      cases others with
      | nil => exact Iff.rfl
      | cons other others => exact absurd (same 0) (by rintro ⟨⟩)
  | cons value values inductionHypothesis =>
      cases others with
      | nil => exact absurd (same 0) (by rintro ⟨⟩)
      | cons other others =>
          have first : ∀ item, fits value item ↔ fits other item := by
            have atFront := same 0
            cases atFront with
            | some agree => exact agree
          have later := inductionHypothesis fun place => same (place + 1)
          cases items with
          | nil => exact iff_of_false (by rintro ⟨⟩) (by rintro ⟨⟩)
          | cons item items => rw [List.forall₂_cons, List.forall₂_cons, first item, later items]

theorem length_eq_of_places {Related : Nat → Value → Value → Prop} {values others : List Value}
    (same : ∀ place : Nat, Option.Rel (Related place) values[place]? others[place]?) :
    values.length = others.length := by
  induction values generalizing others Related with
  | nil =>
      cases others with
      | nil => rfl
      | cons other others => exact absurd (same 0) (by rintro ⟨⟩)
  | cons value values inductionHypothesis =>
      cases others with
      | nil => exact absurd (same 0) (by rintro ⟨⟩)
      | cons other others =>
          have later := inductionHypothesis fun place => same (place + 1)
          rw [List.length_cons, List.length_cons, later]

theorem listOf_sequence_iff {Item : Type} (fits : Value → Item → Prop) (values : List Value)
    (items : List Item) :
    ListOf fits (.sequence values) items ↔ List.Forall₂ fits values items := by
  constructor
  · intro given
    obtain ⟨others, equal, all⟩ := given
    rw [Value.sequence.inj equal]
    exact all
  · exact fun all => ⟨values, rfl, all⟩

/-- Lists fit the same shapes when their items do, place by place. -/
theorem same_sequence (kind : Kind) {values others : List Value}
    (same : ∀ place : Nat,
      Option.Rel (kind.item place).Same values[place]? others[place]?) :
    kind.Same (.sequence values) (.sequence others) := by
  have ofFields (hasFields : kind.HasFields) : kind.Same (.sequence values) (.sequence others) := by
    refine same_of_fields hasFields (fun count => ?_) fun place key inner found => ?_
    · have length := length_eq_of_places same
      rw [isRecord_sequence_iff, isRecord_sequence_iff, length]
    · rw [← item_of_fields hasFields found]
      exact same place
  cases kind with
  | report => exact ofFields (Or.inl rfl)
  | feedback => exact ofFields (Or.inr (Or.inl rfl))
  | warning => exact ofFields (Or.inr (Or.inr rfl))
  | feedbacks =>
      exact fun items => (listOf_sequence_iff _ values items).trans
        ((forall₂_congr_of_places same items).trans (listOf_sequence_iff _ others items).symm)
  | warnings =>
      exact fun items => (listOf_sequence_iff _ values items).trans
        ((forall₂_congr_of_places same items).trans (listOf_sequence_iff _ others items).symm)
  | other =>
      intro shape
      constructor
      · intro given
        obtain ⟨equal, scalar⟩ := given
        exact absurd (equal ▸ scalar) (not_isScalar_sequence values)
      · intro given
        obtain ⟨equal, scalar⟩ := given
        exact absurd (equal ▸ scalar) (not_isScalar_sequence others)

/-- Variants fit the same shapes. -/
theorem Variant.same {kind : Kind} {first second : Value} (variant : Variant kind first second) :
    kind.Same first second := by
  induction variant with
  | refl value => exact Kind.Same.refl _ value
  | symm _ inductionHypothesis => exact fun shape => (inductionHypothesis shape).symm
  | trans _ _ firstHypothesis secondHypothesis =>
      exact fun shape => (firstHypothesis shape).trans (secondHypothesis shape)
  | swap before after different =>
      exact same_mapping _ fun key inner _ =>
        rel_of_eq inner (final?_swap key before after different)
  | unknown before after strange first second =>
      refine same_mapping _ fun key inner known => rel_final?_replace key _ before after ?_
      intro equal
      rw [equal, strange] at known
      exact absurd known (by simp)
  | entry before after isKnown _ inductionHypothesis =>
      refine same_mapping _ fun key inner known => rel_final?_replace key _ before after ?_
      intro equal
      rw [equal, isKnown, Option.some.injEq] at known
      rw [← known]
      exact inductionHypothesis
  | item before after _ inductionHypothesis =>
      refine same_sequence _ fun place => rel_getElem?_replace place before after ?_
      intro equal
      rw [equal]
      exact inductionHypothesis

end SheetLint.Report.Schema
