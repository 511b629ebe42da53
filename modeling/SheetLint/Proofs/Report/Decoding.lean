/-
This file says when the parts of the report schema accept a value.
-/

import Mathlib.Data.List.Forall2
import SheetLint.Proofs.Except
import SheetLint.Proofs.Json.Settling
import SheetLint.Report.Schema

namespace SheetLint.Report.Schema

open SheetLint.Json

variable {Result Item Record : Type}

/-- The decoder accepts exactly the values that fit, whatever keys are spelled several times. -/
def Decodes (decode : Decoder Result) (fits : Value → Result → Prop) : Prop :=
  ∀ raw result, decode raw.settled = .ok result ↔ fits raw result

theorem decodes_text : Decodes decodeText fun value text => value = .text text := by
  intro raw text
  cases raw <;> simp [Value.settled, decodeText]

/-- Whole numbers are accepted when they fit 64 bits with sign. -/
theorem decodes_coordinate :
    Decodes decodeCoordinate fun value coordinate =>
      value = .number (.whole coordinate.toInt) := by
  intro raw coordinate
  cases raw with
  | number number =>
      cases number with
      | whole value =>
          rw [Value.settled, decodeCoordinate]
          constructor
          · intro found
            split at found
            · next inside =>
                rw [← Except.ok.inj found, Int64.toInt_ofInt_of_le inside.1 (by
                  have upper := inside.2
                  rw [Int64.toInt_maxValue] at upper
                  omega)]
            · exact absurd found (by simp)
          · intro equal
            replace equal : value = coordinate.toInt := Number.whole.inj (Value.number.inj equal)
            have inside : Int64.minValue.toInt ≤ value ∧ value ≤ Int64.maxValue.toInt := by
              rw [equal]
              exact ⟨coordinate.minValue_le_toInt, coordinate.toInt_le⟩
            rw [if_pos inside, equal, Int64.ofInt_toInt]
      | floating value => simp [Value.settled, decodeCoordinate]
  | _ => simp [Value.settled, decodeCoordinate]

/-- The value is a list whose items fit one by one, in order. -/
def ListOf (fits : Value → Item → Prop) (value : Value) (items : List Item) : Prop :=
  ∃ values, value = .sequence values ∧ List.Forall₂ fits values items

theorem decodeItems_settledItems {decode : Decoder Item} {fits : Value → Item → Prop}
    (decodes : Decodes decode fits) (values : List Value) (items : List Item) :
    decodeItems decode (settledItems values) = .ok items ↔ List.Forall₂ fits values items := by
  induction values generalizing items with
  | nil =>
      rw [settledItems, decodeItems, List.forall₂_nil_left_iff, Except.ok.injEq, eq_comm]
  | cons value values inductionHypothesis =>
      rw [settledItems, decodeItems, bind_eq_ok_iff, List.forall₂_cons_left_iff]
      constructor
      · intro given
        obtain ⟨item, found, more⟩ := given
        obtain ⟨others, later, whole⟩ := bind_eq_ok_iff.mp more
        exact ⟨item, others, (decodes value item).mp found, (inductionHypothesis others).mp later,
          (pure_eq_ok_iff.mp whole).symm⟩
      · intro given
        obtain ⟨item, others, first, later, whole⟩ := given
        refine ⟨item, (decodes value item).mpr first, bind_eq_ok_iff.mpr ⟨others, ?_, ?_⟩⟩
        · exact (inductionHypothesis others).mpr later
        · exact pure_eq_ok_iff.mpr whole.symm

theorem Decodes.list {decode : Decoder Item} {fits : Value → Item → Prop}
    (decodes : Decodes decode fits) : Decodes (decodeList decode) (ListOf fits) := by
  intro raw items
  cases raw with
  | sequence values =>
      rw [Value.settled, decodeList, decodeItems_settledItems decodes]
      constructor
      · exact fun all => ⟨values, rfl, all⟩
      · intro given
        obtain ⟨others, equal, all⟩ := given
        rw [Value.sequence.inj equal]
        exact all
  | _ => simp [Value.settled, decodeList, ListOf]

/-- The entries pass when each of them passes. -/
theorem checkEntries_eq_ok_iff {checkEntry : String → Value → Except Misfit Unit}
    {entries : List (String × Value)} :
    checkEntries checkEntry entries = .ok () ↔
      ∀ entry ∈ entries, checkEntry entry.1 entry.2 = .ok () := by
  induction entries with
  | nil => exact ⟨fun _ _ member => absurd member List.not_mem_nil, fun _ => rfl⟩
  | cons entry entries inductionHypothesis =>
      rw [checkEntries, bind_eq_ok_iff, List.forall_mem_cons, inductionHypothesis]
      constructor
      · intro given
        obtain ⟨_, first, later⟩ := given
        exact ⟨first, later⟩
      · intro given
        obtain ⟨first, later⟩ := given
        exact ⟨(), first, later⟩

theorem check_of_decode {decode : Decoder Result} {value : Value} {result : Result}
    (found : decode value = .ok result) : check decode value = .ok () := by
  rw [check, found]
  rfl

/-- This is the value of a field, by its key in an object or by its place in a list. -/
def field? (place : Nat) (key : String) : Value → Option Value
  | .mapping entries => final? key entries
  | .sequence items => items[place]?
  | _ => none

/-- A record is an object or a list of at most as many items as the record has fields. -/
def IsRecord (count : Nat) (value : Value) : Prop :=
  (∃ entries, value = .mapping entries) ∨
    ∃ items, value = .sequence items ∧ items.length ≤ count

/-- A field of lists fits when it is absent and the list is empty, or when the list fits. -/
def ListOrAbsent (fits : Value → Item → Prop) : Option Value → List Item → Prop
  | none, items => items = []
  | some value, items => ListOf fits value items

variable {decode : Decoder Result} {fits : Value → Result → Prop}

theorem required_eq_ok_iff (decodes : Decodes decode fits) (key : String)
    (entries : List (String × Value)) (result : Result) :
    required decode key (settledEntries [] entries) = .ok result ↔
      ∃ value, final? key entries = some value ∧ fits value result := by
  rw [required, lookup_settledEntries]
  cases final? key entries with
  | none => simp
  | some value => simpa using decodes value result

theorem fieldAt_eq_ok_iff (decodes : Decodes decode fits) (place : Nat) (record : String)
    (items : List Value) (result : Result) :
    fieldAt decode place record (settledItems items) = .ok result ↔
      ∃ value, items[place]? = some value ∧ fits value result := by
  rw [fieldAt, settledItems_eq_map, List.getElem?_map]
  cases items[place]? with
  | none => simp
  | some value => simpa using decodes value result

theorem listOrEmpty_eq_ok_iff {decode : Decoder Item} {fits : Value → Item → Prop}
    (decodes : Decodes decode fits) (key : String) (entries : List (String × Value))
    (items : List Item) :
    listOrEmpty (decodeList decode) key (settledEntries [] entries) = .ok items ↔
      ListOrAbsent fits (final? key entries) items := by
  rw [listOrEmpty, lookup_settledEntries]
  cases final? key entries with
  | none => simp [ListOrAbsent, eq_comm]
  | some value => simpa [ListOrAbsent] using decodes.list value items

theorem listAt_eq_ok_iff {decode : Decoder Item} {fits : Value → Item → Prop}
    (decodes : Decodes decode fits) (place : Nat) (values : List Value) (items : List Item) :
    listAt (decodeList decode) place (settledItems values) = .ok items ↔
      ListOrAbsent fits values[place]? items := by
  rw [listAt, settledItems_eq_map, List.getElem?_map]
  cases values[place]? with
  | none => simp [ListOrAbsent, eq_comm]
  | some value => simpa [ListOrAbsent] using decodes.list value items

theorem refuseMore_eq_ok_iff (count : Nat) (items : List Value) (done : Unit) :
    refuseMore count (settledItems items) = .ok done ↔ items.length ≤ count := by
  rw [refuseMore, settledItems_eq_map, List.length_map]
  split
  · next few => exact ⟨fun _ => few, fun _ => rfl⟩
  · next many => exact ⟨fun equal => absurd equal (by simp), fun few => absurd few many⟩

/-- The only entry of a key passes when the field behind the key is accepted. -/
theorem check_of_required {entries : List (String × Value)} (distinct : Distinct entries)
    {key : String} {result : Result} (found : required decode key entries = .ok result)
    {entry : String × Value} (member : entry ∈ entries) (isKey : entry.1 = key) :
    check decode entry.2 = .ok () := by
  rw [required, ← isKey, distinct.lookup_of_mem member] at found
  exact check_of_decode found

theorem check_of_listOrEmpty {decode : Decoder (List Item)} {entries : List (String × Value)}
    (distinct : Distinct entries) {key : String} {items : List Item}
    (found : listOrEmpty decode key entries = .ok items) {entry : String × Value}
    (member : entry ∈ entries) (isKey : entry.1 = key) : check decode entry.2 = .ok () := by
  rw [listOrEmpty, ← isKey, distinct.lookup_of_mem member] at found
  exact check_of_decode found

end SheetLint.Report.Schema
