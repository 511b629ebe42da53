/-
This file shows that a text is read exactly when it is a document.
-/

import SheetLint.Proofs.Json.Completeness
import SheetLint.Proofs.Json.Soundness

namespace SheetLint.Json

open SheetLint.Text

/-- A text is read as a value exactly when it is a document that settles to the value. -/
theorem read_eq_ok_iff {value : Value} {text : List Char} :
    read text = .ok value ↔ ∃ raw, Document raw text ∧ raw.settled = value := by
  constructor
  · intro read
    cases result : readValue depthLimit text with
    | error fault => exact absurd read (by simp [Json.read, result, readEnd])
    | ok pair =>
        obtain ⟨found, rest⟩ := pair
        rw [Json.read, result, readEnd] at read
        obtain ⟨after, isAfter, restEqual⟩ := skipGaps_split rest
        split at read
        · next nothing =>
            obtain ⟨gap, raw, token, isGap, equal, spelled, settled⟩ := spells_of_readValue result
            rw [nothing, List.append_nil] at restEqual
            refine ⟨raw, ⟨⟨raw, gap, token, after, isGap, isAfter⟩, rfl, ?_, spelled⟩, ?_⟩
            · rw [equal, restEqual]
              rfl
            · rw [settled, Except.ok.inj read]
        · exact absurd read (by simp)
  · intro given
    obtain ⟨raw, ⟨item, isValue, isText, spelled⟩, settled⟩ := given
    have ends : Delimited item.after := by
      rw [← List.append_nil item.after]
      exact item.gapAfter.append_delimited fun _ first => absurd first (by simp)
    have found := (readsToken_of_spells spelled).reads item.before item.after item.gapBefore ends
    have nothing : skipGaps item.after = [] := by
      rw [← List.append_nil item.after, skipGaps_append item.gapAfter]
      rfl
    rw [Json.read, ← isText, Item.text, found, readEnd, nothing, settled]

theorem readEnd_wrap_eq_ok_iff {Inner : Type} {constructor : Inner → Value}
    (injective : Function.Injective constructor) {reading : Reading Inner} {inner : Inner} :
    readEnd (wrap constructor reading) = .ok (constructor inner) ↔ readEnd reading = .ok inner := by
  cases reading with
  | error fault => simp [wrap, readEnd]
  | ok pair =>
      rw [wrap, readEnd, readEnd]
      split
      · simp only [Except.ok.injEq, injective.eq_iff]
      · simp

/-- Behind its bracket a list is read in the same way when a list is asked for. -/
theorem readList_of_bracket {text inside : List Char} (bracket : skipGaps text = '[' :: inside)
    (values : List Value) : readList text = .ok values ↔ read text = .ok (.sequence values) := by
  have unfolded : read text = readEnd (readBy
      (fun rest => wrap .sequence (readItems (readValue (depthLimit - 1)) rest))
      (fun rest => wrap .mapping (readEntries (readValue (depthLimit - 1)) rest)) text) := rfl
  rw [readList, unfolded, readBy, bracket]
  exact (readEnd_wrap_eq_ok_iff fun _ _ => Value.sequence.inj).symm

/-- A text is read as a list exactly when it is a document of a list. -/
theorem readList_eq_ok_iff {values : List Value} {text : List Char} :
    readList text = .ok values ↔
      ∃ raws, Document (.sequence raws) text ∧ settledItems raws = values := by
  constructor
  · intro read
    have bracket : ∃ inside, skipGaps text = '[' :: inside := by
      rw [readList] at read
      split at read
      · next inside same => exact ⟨inside, same⟩
      · exact absurd read (by simp)
      · split at read <;> exact absurd read (by simp)
    obtain ⟨inside, equal⟩ := bracket
    obtain ⟨raw, document, settled⟩ :=
      read_eq_ok_iff.mp ((readList_of_bracket equal values).mp read)
    cases raw with
    | sequence raws =>
        rw [Value.settled, Value.sequence.injEq] at settled
        exact ⟨raws, document, settled⟩
    | _ => exact absurd settled (by simp [Value.settled])
  · intro given
    obtain ⟨raws, document, settled⟩ := given
    have found := read_eq_ok_iff.mpr ⟨_, document, rfl⟩
    rw [Value.settled, settled] at found
    obtain ⟨item, isValue, isText, spelled⟩ := document
    have bracket : ∃ inside, skipGaps text = '[' :: inside := by
      rw [← isText, Item.text, skipGaps_append item.gapBefore]
      cases token : item.token with
      | nil => rw [token] at spelled; cases spelled
      | cons first more =>
          rw [token] at spelled
          cases spelled with
          | sequence items isGap all => exact ⟨_, rfl⟩
    obtain ⟨inside, equal⟩ := bracket
    exact (readList_of_bracket equal values).mpr found

end SheetLint.Json
